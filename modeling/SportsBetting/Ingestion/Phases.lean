import SportsBetting.Ingestion.Service

/-!
# What the phases of a run keep

A run first writes the catalog, the offering and the fixtures, may then purge
stale fixtures, and last writes events, markets and selections. For each phase,
an invariant that its single writes keep is kept by the whole phase.
-/

namespace SportsBetting.Ingestion

open Async Text

section Basics

variable {invariant : Database → Prop} {db : Database}

theorem keeps_publish (sound : invariant db) :
    Keeps invariant (fun _ after => after = db) publish db :=
  (Upholds.read sound).mono fun _ _ held => held.1

theorem keeps_recordAudit (audit : ∀ db entries, invariant db →
      invariant { db with audit := entries }) (entry : AuditEntry) (sound : invariant db) :
    Keeps invariant (fun _ _ => True) (recordAudit entry) db :=
  Upholds.handle (Upholds.write sound (audit _ _ sound)) (fun _ _ _ => trivial)
    fun _ _ kept => Upholds.pure kept trivial

end Basics

/-- Two databases that agree on events, markets, selections and bets. -/
structure SameGames (first second : Database) : Prop where
  events : second.catalog.events = first.catalog.events
  markets : second.catalog.markets = first.catalog.markets
  selections : second.catalog.selections = first.catalog.selections
  ledger : second.ledger = first.ledger

/-- The games are the same, and nothing that they build on is gone. -/
structure Onward (first second : Database) : Prop extends SameGames first second where
  sports : ∀ key, first.catalog.sports.Has key → second.catalog.sports.Has key
  leagues : ∀ key, first.catalog.leagues.Has key → second.catalog.leagues.Has key
  teams : ∀ key, first.catalog.teams.Has key → second.catalog.teams.Has key
  fixtures : ∀ ref, first.catalog.fixtures.Has ref → second.catalog.fixtures.Has ref

theorem Onward.refl (db : Database) : Onward db db :=
  ⟨⟨rfl, rfl, rfl, rfl⟩, fun _ => id, fun _ => id, fun _ => id, fun _ => id⟩

/-- Onward, without recording odds. -/
structure Unpriced (first second : Database) : Prop extends Onward first second where
  oddsSnapshots : second.catalog.oddsSnapshots = first.catalog.oddsSnapshots

/-- Onward, without recording odds or writing fixtures. -/
structure Unscheduled (first second : Database) : Prop extends Unpriced first second where
  sameFixtures : second.catalog.fixtures = first.catalog.fixtures

theorem Unpriced.refl (db : Database) : Unpriced db db := ⟨.refl db, rfl⟩

theorem Unscheduled.refl (db : Database) : Unscheduled db db := ⟨.refl db, rfl⟩

/-- Only the offered leagues and the audit log differ. -/
def OfferingOnly (first second : Database) : Prop :=
  ∃ offering audit,
    second = { first with catalog.casinoGroupLeagues := offering, audit := audit }

/-- Only the fixtures differ, and none is gone. -/
def FixturesOnly (first second : Database) : Prop :=
  ∃ fixtures, second = { first with catalog.fixtures := fixtures } ∧
    ∀ ref, first.catalog.fixtures.Has ref → fixtures.Has ref

theorem OfferingOnly.unscheduled {first second : Database} (only : OfferingOnly first second) :
    Unscheduled first second := by
  obtain ⟨offering, audit, rfl⟩ := only
  exact ⟨⟨⟨⟨rfl, rfl, rfl, rfl⟩, fun _ => id, fun _ => id, fun _ => id, fun _ => id⟩, rfl⟩, rfl⟩

theorem FixturesOnly.unpriced {first second : Database} (only : FixturesOnly first second) :
    Unpriced first second := by
  obtain ⟨fixtures, rfl, kept⟩ := only
  exact ⟨⟨⟨rfl, rfl, rfl, rfl⟩, fun _ => id, fun _ => id, fun _ => id, kept⟩, rfl⟩

section Writes

variable {db after : Database}

theorem offeringOnly_recordAudit (db : Database) (entries : List AuditEntry) :
    OfferingOnly db { db with audit := entries } :=
  ⟨_, entries, rfl⟩

theorem onward_oddsSnapshots (db : Database) (odds : List OddsSnapshot) :
    Onward db { db with catalog.oddsSnapshots := odds } :=
  ⟨⟨rfl, rfl, rfl, rfl⟩, fun _ => id, fun _ => id, fun _ => id, fun _ => id⟩

theorem unscheduled_upsertSport {sport : NormalizedSport} (done : upsertSport db sport = .ok after) :
    Unscheduled db after ∧ after.catalog.sports.Has sport.key := by
  unfold upsertSport at done
  split at done
  · cases done
  · obtain rfl := Except.ok.inj done
    exact ⟨⟨⟨⟨⟨rfl, rfl, rfl, rfl⟩, fun _ has => has.put _, fun _ => id, fun _ => id, fun _ => id⟩,
      rfl⟩, rfl⟩, Table.has_put_self _ _⟩

theorem unscheduled_upsertLeague (db : Database) (league : NormalizedLeague) :
    Unscheduled db (upsertLeague db league) ∧
      (upsertLeague db league).catalog.leagues.Has league.key :=
  ⟨⟨⟨⟨⟨rfl, rfl, rfl, rfl⟩, fun _ => id, fun _ has => has.put _, fun _ => id, fun _ => id⟩, rfl⟩,
    rfl⟩, Table.has_put_self _ _⟩

theorem unscheduled_upsertTeam (db : Database) (team : NormalizedTeam) :
    Unscheduled db (upsertTeam db team) ∧ (upsertTeam db team).catalog.teams.Has team.key :=
  ⟨⟨⟨⟨⟨rfl, rfl, rfl, rfl⟩, fun _ => id, fun _ => id, fun _ has => has.put _, fun _ => id⟩, rfl⟩,
    rfl⟩, Table.has_put_self _ _⟩

theorem offeringOnly_upsertGroupLeague (db : Database) (casinoGroupId league : String)
    (enabled : Bool) : OfferingOnly db (upsertGroupLeague db casinoGroupId league enabled) :=
  ⟨_, db.audit, rfl⟩

theorem fixturesOnly_upsertFixture {fixture : NormalizedFixture} {startsAt : Option Time}
    (done : upsertFixture db fixture startsAt = .ok after) :
    FixturesOnly db after ∧ after.catalog.fixtures.Has fixture.providerRef := by
  unfold upsertFixture at done
  split at done
  · cases done
  · obtain rfl := Except.ok.inj done
    exact ⟨⟨_, rfl, fun _ has => has.put _⟩, Table.has_put_self _ _⟩

end Writes

section CatalogPhase

variable {invariant : Database → Prop} {db : Database} (snapshot : ProviderSnapshot)

theorem keeps_catalogRows
    (sport : ∀ sport ∈ snapshot.sports, ∀ db after, invariant db →
      upsertSport db sport = .ok after → invariant after)
    (league : ∀ league ∈ snapshot.leagues, ∀ db, invariant db → invariant (upsertLeague db league))
    (team : ∀ team ∈ snapshot.teams, ∀ db, invariant db → invariant (upsertTeam db team))
    (sound : invariant db) :
    Keeps invariant (fun _ _ => True) (upsertCatalogFromSnapshot snapshot) db := by
  unfold upsertCatalogFromSnapshot
  refine Upholds.bind (Upholds.forM (fun rest _ => rest ⊆ snapshot.sports) ?_ sound
    (List.Subset.refl _)) fun _ _ sound _ => ?_
  · intro item rest db sound listed
    obtain ⟨here, later⟩ := List.cons_subset.mp listed
    exact (Upholds.attempt sound fun after done => sport item here db after sound done).mono
      fun _ _ _ => later
  refine Upholds.bind (Upholds.read sound) fun sportKeys _ sound _ => ?_
  refine Upholds.bind (Upholds.forM (fun rest _ => rest ⊆ snapshot.leagues) ?_ sound
    (List.Subset.refl _)) fun _ _ sound _ => ?_
  · intro item rest db sound listed
    obtain ⟨here, later⟩ := List.cons_subset.mp listed
    split
    · exact (Upholds.write sound (league item here db sound)).mono fun _ _ _ => later
    · exact Upholds.pure sound later
  refine (Upholds.forM (fun rest _ => rest ⊆ snapshot.teams) ?_ sound
    (List.Subset.refl _)).mono fun _ _ _ => trivial
  intro item rest db sound listed
  obtain ⟨here, later⟩ := List.cons_subset.mp listed
  split
  · exact (Upholds.write sound (team item here db sound)).mono fun _ _ _ => later
  · exact Upholds.pure sound later

variable (games : ∀ first second, Unscheduled first second → invariant first → invariant second)

include games in
theorem keeps_upsertCatalog (sound : invariant db) :
    Keeps invariant (fun _ _ => True) (upsertCatalogFromSnapshot snapshot) db :=
  keeps_catalogRows snapshot
    (fun _ _ db after sound done => games db after (unscheduled_upsertSport done).1 sound)
    (fun league _ db sound => games db _ (unscheduled_upsertLeague db league).1 sound)
    (fun team _ db sound => games db _ (unscheduled_upsertTeam db team).1 sound) sound

theorem keeps_syncTenantLeagues
    (offers : ∀ first second, OfferingOnly first second → invariant first → invariant second)
    (slug : String) (offered : List String) (sound : invariant db) :
    Keeps invariant (fun _ _ => True) (syncTenantLeagues slug offered) db := by
  unfold syncTenantLeagues
  refine Upholds.bind (Upholds.read sound) fun group _ sound _ => ?_
  cases group with
  | none => exact Upholds.pure sound trivial
  | some group =>
      refine Upholds.bind (Upholds.read sound) fun leagues _ sound _ => ?_
      refine (Upholds.forM (fun _ _ => True) ?_ sound trivial).mono fun _ _ _ => trivial
      intro league _ db sound _
      refine Upholds.bind (Upholds.read sound) fun existing before sound _ => ?_
      refine Upholds.bind (Upholds.write sound
        (offers before _ (offeringOnly_upsertGroupLeague ..) sound)) fun _ _ sound _ => ?_
      split
      · exact Upholds.pure sound trivial
      · exact keeps_recordAudit
          (fun db entries => offers db _ (offeringOnly_recordAudit db entries)) _ sound

theorem keeps_upsertFixtures
    (schedules : ∀ first second, FixturesOnly first second → invariant first → invariant second)
    (runtime : Runtime) (known : List String × List String) (sound : invariant db) (count : ℕ) :
    Keeps invariant (fun _ _ => True) (snapshot.fixtures.foldlM (fun count fixture =>
      if fixture.leagueKey ∈ known.1 ∧ fixture.homeTeamKey ∈ known.2 ∧
          fixture.awayTeamKey ∈ known.2 then do
        attempt fun db => upsertFixture db fixture (runtime.dateParse fixture.startsAt)
        pure (count + 1)
      else pure count) count) db := by
  refine (Upholds.foldlM (fun _ _ _ => True) ?_ sound trivial).mono fun _ _ _ => trivial
  intro fixture _ count db sound _
  split
  · exact Upholds.bind (Upholds.attempt sound fun after done =>
      schedules db after (fixturesOnly_upsertFixture done).1 sound) fun _ _ sound _ =>
        Upholds.pure sound trivial
  · exact Upholds.pure sound trivial

end CatalogPhase

section PurgePhase

/-- The mock fixtures that a snapshot does not list, if it lists any. -/
def staleFixture (snapshot : ProviderSnapshot) (ref : String) : Bool :=
  let activeMockRefs := (snapshot.fixtures.map NormalizedFixture.providerRef).filter fun ref =>
    startsWith ref "mock_"
  !activeMockRefs.isEmpty && (startsWith ref "mock_" && ref ∉ activeMockRefs)

theorem deleteFixtures_ok {db after : Database} {fixtures : List String}
    (done : deleteFixtures db fixtures = .ok after) :
    db.ledger.bets.rows.any (betsOn db fixtures) = false ∧
      after = { db with catalog := cascadeFixtures fixtures db.catalog } := by
  unfold deleteFixtures at done
  split at done
  · cases done
  · next free => exact ⟨by simpa using free, (Except.ok.inj done).symm⟩

theorem removeFixtures_ok {db after : Database} {fixtures : List String} {count : ℕ}
    (done : removeFixtures db fixtures = .ok (count, after)) :
    deleteFixtures db fixtures = .ok after := by
  obtain ⟨later, deleted, done⟩ := Except.bind_eq_ok.mp done
  obtain ⟨_, rfl⟩ := Prod.mk.inj (Except.pure_eq_ok.mp done)
  exact deleted

theorem deleteBetsAndFixtures_ok {db after : Database} {betIds fixtures : List String} {count : ℕ}
    (done : deleteBetsAndFixtures db betIds fixtures = .ok (count, after)) :
    deleteFixtures { db with ledger := db.ledger.deleteBets fun betId => betId ∈ betIds } fixtures =
      .ok after := by
  obtain ⟨later, deleted, done⟩ := Except.bind_eq_ok.mp done
  obtain ⟨_, rfl⟩ := Prod.mk.inj (Except.pure_eq_ok.mp done)
  exact deleted

theorem mem_fixturesWhere {db : Database} {chosen : Fixture → Bool} {active : Bool} {ref : String} :
    ref ∈ fixturesWhere db chosen active ↔ ∃ fixture ∈ db.catalog.fixtures,
      fixture.providerRef = ref ∧ chosen fixture = true ∧ fixtureHasActiveBets db ref = active := by
  simp only [fixturesWhere, List.mem_map, List.mem_filter, Bool.and_eq_true, beq_iff_eq]
  constructor
  · rintro ⟨fixture, ⟨stored, chose, same⟩, rfl⟩
    exact ⟨fixture, stored, rfl, chose, same⟩
  · rintro ⟨fixture, stored, rfl, chose, same⟩
    exact ⟨fixture, ⟨stored, chose, same⟩, rfl⟩

theorem keeps_deleteFixturesWithBets {invariant : Database → Prop} {db : Database}
    {betIds fixtures : List String} (sound : invariant db)
    (purged : ∀ ledger,
      invariant { db with ledger, catalog := cascadeFixtures fixtures db.catalog }) :
    Keeps invariant (fun _ _ => True) (deleteFixturesWithBets betIds fixtures) db := by
  unfold deleteFixturesWithBets
  split
  · refine Upholds.bind (Upholds.transaction sound fun _ after done => ?_) fun _ _ sound _ =>
      Upholds.pure sound trivial
    rw [(deleteFixtures_ok (removeFixtures_ok done)).2]
    exact purged db.ledger
  · refine Upholds.bind (Upholds.transaction sound fun _ after done => ?_) fun _ _ sound _ =>
      Upholds.pure sound trivial
    rw [(deleteFixtures_ok (deleteBetsAndFixtures_ok done)).2]
    exact purged _

theorem keeps_deleteFixturesAndBetHistory {invariant : Database → Prop} {db : Database}
    {stale : Fixture → Bool} (sound : invariant db)
    (purged : ∀ fixtures ledger, (∀ ref ∈ fixtures, ∃ fixture : Fixture,
        fixture.providerRef = ref ∧ stale fixture = true ∧ fixtureHasActiveBets db ref = false) →
      invariant { db with ledger, catalog := cascadeFixtures fixtures db.catalog }) :
    Keeps invariant (fun _ _ => True) (deleteFixturesAndBetHistory stale) db := by
  unfold deleteFixturesAndBetHistory
  refine Upholds.bind (Upholds.read sound) ?_
  rintro skipped after _ ⟨same, _⟩
  subst after
  refine Upholds.bind (Upholds.read sound) ?_
  rintro fixtures after _ ⟨same, listed⟩
  subst after
  have chosen : ∀ ref ∈ fixtures, ∃ fixture : Fixture, fixture.providerRef = ref ∧
      stale fixture = true ∧ fixtureHasActiveBets db ref = false := by
    intro ref member
    rw [listed] at member
    obtain ⟨fixture, _, conditions⟩ := mem_fixturesWhere.mp member
    exact ⟨fixture, conditions⟩
  split
  · exact Upholds.pure sound trivial
  refine Upholds.bind (Upholds.read sound) ?_
  rintro selectionIds after _ ⟨same, _⟩
  subst after
  have legs : Keeps invariant (fun _ after => after = db)
      (findBetIds selectionIds) db := by
    unfold findBetIds
    split
    · exact Upholds.pure sound rfl
    · exact (Upholds.read sound).mono fun _ _ held => held.1
  refine Upholds.bind legs ?_
  rintro betIds after _ same
  subst after
  exact keeps_deleteFixturesWithBets sound fun ledger => purged fixtures ledger chosen

theorem keeps_deleteStaleFixtures {invariant : Database → Prop} {db : Database}
    {stale : Fixture → Bool} (sound : invariant db)
    (purged : ∀ fixtures ledger, (∀ ref ∈ fixtures, ∃ fixture : Fixture,
        fixture.providerRef = ref ∧ stale fixture = true ∧ fixtureHasActiveBets db ref = false) →
      invariant { db with ledger, catalog := cascadeFixtures fixtures db.catalog }) :
    Keeps invariant (fun _ _ => True) (deleteStaleFixtures stale) db :=
  Upholds.bind (keeps_deleteFixturesAndBetHistory sound purged) fun _ _ sound _ =>
    Upholds.pure sound trivial

/-- The fixtures phase: first the upserts, then the purge. -/
theorem keeps_upsertFixturesFromSnapshot {before invariant : Database → Prop} {db : Database}
    (runtime : Runtime) (isOddsApi : Bool) (snapshot : ProviderSnapshot) (purgeStale : Bool)
    (schedules : ∀ first second, FixturesOnly first second → before first → before second)
    (implied : ∀ db, before db → invariant db)
    (purged : purgeStale = true → isOddsApi = false → ∀ db fixtures ledger, before db →
      (∀ ref ∈ fixtures, staleFixture snapshot ref = true ∧ fixtureHasActiveBets db ref = false) →
      invariant { db with ledger, catalog := cascadeFixtures fixtures db.catalog })
    (sound : before db) :
    Keeps invariant (fun _ _ => True)
      (upsertFixturesFromSnapshot runtime isOddsApi snapshot purgeStale) db := by
  unfold upsertFixturesFromSnapshot
  refine Upholds.bind (Upholds.read (implied db sound)) ?_
  rintro leagueKeys after _ ⟨same, _⟩
  subst after
  refine Upholds.bind (Upholds.read (implied db sound)) ?_
  rintro teamKeys after _ ⟨same, _⟩
  subst after
  refine Upholds.bind (Upholds.weaken implied sound (keeps_upsertFixtures snapshot schedules runtime
    (leagueKeys, teamKeys) sound 0)) ?_
  rintro fixtureCount db kept ⟨sound, _⟩
  split
  · exact Upholds.pure kept trivial
  next purges =>
  simp only [Bool.or_eq_true, Bool.not_eq_true', not_or, Bool.not_eq_false,
    Bool.not_eq_true] at purges
  dsimp only
  split
  · exact Upholds.pure kept trivial
  next listed =>
  refine Upholds.bind (keeps_deleteStaleFixtures kept ?_) fun _ _ kept _ => Upholds.pure kept trivial
  intro fixtures ledger chosen
  refine purged purges.1 purges.2 db fixtures ledger sound fun ref member => ?_
  obtain ⟨fixture, rfl, stale, idle⟩ := chosen ref member
  refine ⟨?_, idle⟩
  simp only [staleFixture, Bool.and_eq_true, Bool.not_eq_true']
  exact ⟨Bool.eq_false_iff.mpr listed, by simpa using stale⟩

end PurgePhase

section LivePhase

variable {invariant : Database → Prop} {db : Database} (snapshot : ProviderSnapshot)

theorem keeps_closeMarkets (eventRef : String)
    (markets : ∀ db, invariant db → invariant (settleMarkets db eventRef))
    (selections : ∀ db, invariant db → invariant (settleSelections db eventRef))
    (sound : invariant db) :
    Keeps invariant (fun _ _ => True) (closeMarketsForEndedEvent eventRef) db :=
  Upholds.bind (Upholds.write sound (markets db sound)) fun _ after sound _ =>
    (Upholds.write sound (selections after sound)).mono fun _ _ _ => trivial

/-- A manual result ends its event, closes the markets and clears the notes. -/
theorem keeps_finalizeEventResult (providerRef : String) (homeScore awayScore : ℤ)
    (ends : ∀ db event after, event.providerRef = providerRef → invariant db →
      endEvent db event homeScore awayScore = .ok after → invariant after)
    (markets : ∀ db, invariant db → invariant (settleMarkets db providerRef))
    (selections : ∀ db, invariant db → invariant (settleSelections db providerRef))
    (notes : ∀ db, invariant db → invariant (clearSettlementNotes db providerRef))
    (sound : invariant db) :
    Keeps invariant (fun _ _ => True) (finalizeEventResult providerRef homeScore awayScore) db := by
  unfold finalizeEventResult
  refine Upholds.bind (Upholds.read sound) ?_
  rintro event now sound ⟨rfl, rfl⟩
  cases found : now.catalog.events.get? providerRef with
  | none => exact Upholds.pure sound trivial
  | some event =>
      obtain ⟨_, rfl⟩ := Table.get?_eq_some_iff.mp found
      refine Upholds.bind (Upholds.attempt sound fun after => ends now event after rfl sound) ?_
      intro _ ended sound _
      refine Upholds.bind (keeps_closeMarkets event.providerRef markets selections sound) ?_
      intro _ closed sound _
      refine Upholds.bind (Upholds.write sound (notes closed sound)) ?_
      exact fun _ _ sound _ => Upholds.pure sound trivial

theorem keeps_ingestEvents
    (event : ∀ event ∈ snapshot.events, ∀ db after, invariant db →
      upsertEvent db event = .ok after → invariant after)
    (markets : ∀ event ∈ snapshot.events, event.status = .ended → ∀ db, invariant db →
      invariant (settleMarkets db event.providerRef))
    (selections : ∀ event ∈ snapshot.events, event.status = .ended → ∀ db, invariant db →
      invariant (settleSelections db event.providerRef))
    (fixtureRefs : List String) (sound : invariant db) :
    Keeps invariant (fun _ _ => True) (snapshot.events.foldlM (ingestEvent fixtureRefs) 0) db := by
  refine (Upholds.foldlM (fun rest _ _ => rest ⊆ snapshot.events) ?_ sound
    (List.Subset.refl _)).mono fun _ _ _ => trivial
  intro item rest count db sound listed
  obtain ⟨here, later⟩ := List.cons_subset.mp listed
  unfold ingestEvent
  split
  · refine Upholds.bind (Upholds.attempt sound fun after done => event item here db after sound done)
      fun _ _ sound _ => ?_
    refine Upholds.bind (keeps_publish sound) fun _ after sound _ => ?_
    have closed : Keeps invariant (fun _ _ => True) (closeIfEnded item) after := by
      unfold closeIfEnded
      split
      · next ended =>
          exact keeps_closeMarkets _ (markets item here ended) (selections item here ended) sound
      · exact Upholds.pure sound trivial
    exact Upholds.bind closed fun _ _ sound _ => Upholds.pure sound later
  · exact Upholds.pure sound later

/-- The market loop, with what holds while `rest` is still to be written. -/
theorem keeps_ingestMarkets (holds : List NormalizedMarket → Database → Prop)
    (implied : ∀ rest db, holds rest db → invariant db) (eventRefs : List String)
    (market : ∀ market rest db after, market ∈ snapshot.markets →
      market.eventProviderRef ∈ eventRefs → holds (market :: rest) db →
        upsertMarket db market = .ok after → holds rest after)
    (skipped : ∀ market rest db, market.eventProviderRef ∉ eventRefs →
      holds (market :: rest) db → holds rest db)
    (start : holds snapshot.markets db) :
    Keeps invariant (fun _ after => holds [] after)
      (snapshot.markets.foldlM (ingestMarket eventRefs) 0) db := by
  refine (Upholds.foldlM (fun rest _ db => rest ⊆ snapshot.markets ∧ holds rest db) ?_
    (implied _ db start) ⟨List.Subset.refl _, start⟩).mono fun _ _ held => held.2
  rintro item rest count db sound ⟨listed, held⟩
  obtain ⟨here, later⟩ := List.cons_subset.mp listed
  unfold ingestMarket
  split
  · next known =>
      have written := fun after done => market item rest db after here known held done
      refine Upholds.bind (Upholds.attempt sound fun after done => implied _ _ (written after done))
        fun _ after sound done => Upholds.pure sound ⟨later, written after done⟩
  · next unknown => exact Upholds.pure sound ⟨later, skipped item rest db unknown held⟩

theorem keeps_ingestSelections (marketRefs : List String) (priceByRef : String → Option ℚ)
    (recorded : ∀ db odds, invariant db → invariant { db with catalog.oddsSnapshots := odds })
    (selection : ∀ selection ∈ snapshot.selections, selection.marketProviderRef ∈ marketRefs →
      ∀ db after, invariant db → upsertSelection db selection = .ok after → invariant after)
    (sound : invariant db) :
    Keeps invariant (fun _ _ => True)
      (snapshot.selections.foldlM (ingestSelection marketRefs priceByRef) (0, 0)) db := by
  refine (Upholds.foldlM (fun rest _ _ => rest ⊆ snapshot.selections) ?_ sound
    (List.Subset.refl _)).mono fun _ _ _ => trivial
  intro item rest counts db sound listed
  obtain ⟨here, later⟩ := List.cons_subset.mp listed
  unfold ingestSelection
  split
  · next known =>
      split
      · exact Upholds.throw sound
      · next price _ =>
          refine Upholds.bind (Upholds.attempt sound fun after done =>
            selection item here known db after sound done) fun _ written sound _ => ?_
          split
          · exact Upholds.pure sound later
          · refine Upholds.bind (Upholds.attempt sound fun after done => ?_)
              fun _ _ sound _ => ?_
            · obtain ⟨odds, rfl⟩ := createOddsSnapshot_ok done
              exact recorded written odds sound
            · exact Upholds.bind (keeps_publish sound) fun _ _ sound _ => Upholds.pure sound later
  · exact Upholds.pure sound later

end LivePhase

end SportsBetting.Ingestion
