import SportsBetting.Feed.Mapper
import SportsBetting.Ingestion.Phases

/-!
# Ingest runs and histories

A history is any list of runs; each runs alone and may stop at any query.
Wherever a run stops, every row can be traced to a row stored before or to one
that the snapshot of the run lists.
-/

namespace SportsBetting.Ingestion

open Async Text

inductive IngestRun
  | catalog (fetched : Except Failure ProviderSnapshot)
  | live (now prestartMinutes : ℤ)
      (fetchLiveSnapshot : Option (List String → Except Failure ProviderSnapshot))
  | results (snapshot : ProviderSnapshot)

namespace IngestRun

def program (runtime : Runtime) (isOddsApi : Bool) : IngestRun → Service Unit
  | .catalog fetched => (ingestFixtures runtime isOddsApi fetched).void
  | .live now prestartMinutes fetchLiveSnapshot =>
      (ingestLiveTick runtime isOddsApi now prestartMinutes fetchLiveSnapshot).void
  | .results snapshot => (applyResultsSnapshot snapshot).void

/-- The run, started on the database, applies the snapshot. -/
def Fetches : IngestRun → Database → ProviderSnapshot → Prop
  | .catalog fetched, _, snapshot => fetched = .ok snapshot
  | .live now prestartMinutes (some fetch), db, snapshot =>
      fetch (liveSportKeys now prestartMinutes db) = .ok snapshot
  | .live _ _ none, _, _ => False
  | .results given, _, snapshot => given = snapshot

/-- Only a catalog run with another provider than the odds feed purges fixtures. -/
def mayPurge (isOddsApi : Bool) : IngestRun → Bool
  | .catalog _ => !isOddsApi
  | _ => false

section Stages

variable {invariant : Database → Prop} {runtime : Runtime} {isOddsApi : Bool}
  {before live post : ProviderSnapshot → Database → Prop} {snapshot : ProviderSnapshot}
  {db : Database}

/-- The catalog rows come first. -/
theorem keeps_catalogFirst
    (games : ∀ first second, Unpriced first second → before snapshot first → before snapshot second)
    (implied : ∀ db, before snapshot db → invariant db) (start : before snapshot db) :
    Keeps invariant (fun _ after => before snapshot after) (upsertCatalogFromSnapshot snapshot)
      db :=
  (Upholds.weaken implied start (keeps_upsertCatalog snapshot (fun first second aside =>
    games first second aside.toUnpriced) start)).mono fun _ _ kept => kept.1

theorem keeps_tenantLeagues (slug : String) (offered : List String)
    (games : ∀ first second, Unpriced first second → before snapshot first → before snapshot second)
    (implied : ∀ db, before snapshot db → invariant db) (start : before snapshot db) :
    Keeps invariant (fun _ after => before snapshot after) (syncTenantLeagues slug offered) db :=
  (Upholds.weaken implied start (keeps_syncTenantLeagues (fun first second only =>
    games first second only.unscheduled.toUnpriced) slug offered start)).mono fun _ _ kept => kept.1

/-- The fixtures, with a possible purge, and then the live phase. -/
theorem keeps_fixturesThenLive (purgeStale : Bool)
    (games : ∀ first second, Unpriced first second → before snapshot first → before snapshot second)
    (settled : ∀ db, before snapshot db → live snapshot db)
    (implied : ∀ db, live snapshot db → invariant db)
    (purged : purgeStale = true → isOddsApi = false → ∀ db fixtures ledger, before snapshot db →
      (∀ ref ∈ fixtures, staleFixture snapshot ref = true ∧ fixtureHasActiveBets db ref = false) →
      live snapshot { db with ledger, catalog := cascadeFixtures fixtures db.catalog })
    (written : ∀ db, live snapshot db →
      Keeps invariant (fun _ after => post snapshot after) (ingestLiveData snapshot) db)
    {Result : Type} (summary : ℕ → LiveCounts → Result) (start : before snapshot db) :
    Keeps invariant (fun _ after => post snapshot after) (do
      let fixtureCount ← upsertFixturesFromSnapshot runtime isOddsApi snapshot purgeStale
      let counts ← ingestLiveData snapshot
      pure (summary fixtureCount counts)) db := by
  refine Upholds.bind (Upholds.weaken implied (settled db start)
    (keeps_upsertFixturesFromSnapshot runtime isOddsApi snapshot purgeStale
      (fun first second only => games first second only.unpriced) settled purged start)) ?_
  rintro fixtureCount db _ ⟨held, _⟩
  exact Upholds.bind (written db held) fun _ _ kept done => Upholds.pure kept done

end Stages

/-- What the run keeps, `before` until a possible purge and `live` from there on, and what
it has reached where it returns. -/
theorem result_upholds (invariant : Database → Prop) (runtime : Runtime) (isOddsApi : Bool)
    (before live post : ProviderSnapshot → Database → Prop)
    (games : ∀ snapshot first second, Unpriced first second → before snapshot first →
      before snapshot second)
    (settled : ∀ snapshot db, before snapshot db → live snapshot db)
    (implied : ∀ snapshot db, live snapshot db → invariant db)
    (run : IngestRun)
    (purged : run.mayPurge isOddsApi = true → ∀ snapshot db fixtures ledger, before snapshot db →
      (∀ ref ∈ fixtures, staleFixture snapshot ref = true ∧ fixtureHasActiveBets db ref = false) →
      live snapshot { db with ledger, catalog := cascadeFixtures fixtures db.catalog })
    (written : ∀ snapshot db, live snapshot db →
      Keeps invariant (fun _ after => post snapshot after) (ingestLiveData snapshot) db)
    (moves : List (Move databaseMachine)) {db : Database} (sound : invariant db)
    (start : ∀ snapshot, run.Fetches db snapshot → before snapshot db) :
    let session : Session databaseMachine := ⟨run.program runtime isOddsApi, moves⟩
    invariant (session.result db) ∧ (session.Returned db → session.result db = db ∨
      ∃ snapshot, run.Fetches db snapshot ∧ post snapshot (session.result db)) := by
  intro session
  have beforeImplied : ∀ snapshot db, before snapshot db → invariant db :=
    fun snapshot db held => implied snapshot db (settled snapshot db held)
  have reached : ∀ {α : Type} {snapshot} {program : Service α} {middle : Database},
      run.Fetches db snapshot → Keeps invariant (fun _ after => post snapshot after) program middle →
      Keeps invariant (fun _ after => after = db ∨ ∃ snapshot, run.Fetches db snapshot ∧
        post snapshot after) program middle := fun fetched safe =>
    safe.mono fun _ _ done => .inr ⟨_, fetched, done⟩
  have safe : Keeps invariant (fun _ after => after = db ∨ ∃ snapshot, run.Fetches db snapshot ∧
      post snapshot after) session.program db := by
    unfold session
    cases run with
    | catalog fetched =>
        refine Upholds.void ?_
        unfold ingestFixtures
        cases fetched with
        | error failure => exact Upholds.throw sound
        | ok snapshot =>
            have games := games snapshot
            have before := beforeImplied snapshot
            refine Upholds.bind (keeps_catalogFirst games before (start snapshot rfl)) ?_
            refine fun _ _ _ held => Upholds.bind (keeps_tenantLeagues _ _ games before held) ?_
            refine fun _ _ _ held => Upholds.bind (keeps_tenantLeagues _ _ games before held) ?_
            intro _ _ _ held
            apply reached rfl
            apply keeps_fixturesThenLive true games (settled snapshot) (implied snapshot) _
              (written snapshot) _ held
            exact fun _ mock => purged (by simp [mayPurge, mock]) snapshot
    | live now prestartMinutes fetchLiveSnapshot =>
        refine Upholds.void ?_
        unfold ingestLiveTick
        refine Upholds.bind (Upholds.read sound) ?_
        rintro sportKeys after _ ⟨same, scope⟩
        subst after sportKeys
        split
        · exact Upholds.pure sound (.inl rfl)
        cases fetchLiveSnapshot with
        | none => exact Upholds.throw sound
        | some fetch =>
            dsimp only
            split
            · exact Upholds.throw sound
            · next snapshot fetched =>
                have games := games snapshot
                refine Upholds.bind (keeps_catalogFirst games (beforeImplied snapshot)
                  (start snapshot fetched)) ?_
                intro _ _ _ held
                apply reached fetched
                exact keeps_fixturesThenLive false games (settled snapshot) (implied snapshot)
                  (fun never => nomatch never) (written snapshot) _ held
    | results snapshot =>
        exact Upholds.void
          (reached rfl (written snapshot db (settled snapshot db (start snapshot rfl))))
  exact Upholds.result sound safe

/-- The run alone, with `count` queries none of which fails. -/
def session (runtime : Runtime) (isOddsApi : Bool) (run : IngestRun) (count : ℕ) :
    Session databaseMachine :=
  ⟨run.program runtime isOddsApi, List.replicate count (.run 0 .none)⟩

end IngestRun

section Sample

open OddsApi

/-- One game of the feed with a totals market. -/
def totalsFeed (point : Numeral.Decimal) (scores : List OddsApiEventScore)
    (marketKeys : List String) : MapOddsApiInput where
  sportKeys := ["basketball_nba"]
  apiSports := [⟨"basketball_nba", "Basketball", "NBA"⟩]
  oddsBySport _ := [⟨"game", "0", "Lakers", "Celtics", [⟨"book", [⟨"totals",
    [⟨"Over", .ofDigits 19 (-1), some point⟩,
      ⟨"Under", .ofDigits 19 (-1), some point⟩]⟩]⟩]⟩]
  scoresBySport _ := scores
  marketKeys := marketKeys

/-- A database with one casino group and no games. -/
def freshDatabase : Database where
  catalog := ⟨.empty, .empty, .empty, .empty, .empty, .empty, .empty, [],
    ⟨[⟨"group", "acme", true, "EUR", none, none, none, "Acme", "UTC"⟩], by decide⟩, .empty⟩
  ledger := .empty
  audit := []

/-- The game as first ingested, with the totals at 220.5. -/
def openTotals : ProviderSnapshot :=
  mapOddsApiToSnapshot asciiRuntime 1 (totalsFeed (.ofDigits 2205 (-1)) [] ["totals"])

def openDatabase : Database :=
  ((IngestRun.catalog (.ok openTotals)).session asciiRuntime true 40).result freshDatabase

end Sample

end SportsBetting.Ingestion
