import SportsBetting.Ingestion.Filed

/-!
# What a complete run stores

A run that returns has stored everything that its snapshot lists, and has left
alone what a game that goes on had before and the snapshot does not list.
-/

namespace SportsBetting.Ingestion

open Async Numeral OddsApi Text

section Preparing

variable {snapshot : ProviderSnapshot} {db : Database}

/-- The leagues and teams of the snapshot are stored. -/
structure Catalogued (snapshot : ProviderSnapshot) (db : Database) : Prop where
  leagues : ∀ league ∈ snapshot.leagues, db.catalog.leagues.Has league.key
  teams : ∀ team ∈ snapshot.teams, db.catalog.teams.Has team.key

theorem Onward.trans {first second third : Database} (former : Onward first second)
    (latter : Onward second third) : Onward first third where
  toSameGames := ⟨latter.events.trans former.events, latter.markets.trans former.markets,
    latter.selections.trans former.selections, latter.ledger.trans former.ledger⟩
  sports key has := latter.sports key (former.sports key has)
  leagues key has := latter.leagues key (former.leagues key has)
  teams key has := latter.teams key (former.teams key has)
  fixtures ref has := latter.fixtures ref (former.fixtures ref has)

theorem Unpriced.trans {first second third : Database} (former : Unpriced first second)
    (latter : Unpriced second third) : Unpriced first third :=
  ⟨former.toOnward.trans latter.toOnward, latter.oddsSnapshots.trans former.oddsSnapshots⟩

theorem Unscheduled.trans {first second third : Database} (former : Unscheduled first second)
    (latter : Unscheduled second third) : Unscheduled first third :=
  ⟨former.toUnpriced.trans latter.toUnpriced, latter.sameFixtures.trans former.sameFixtures⟩

theorem Catalogued.onward {after : Database} (catalogued : Catalogued snapshot db)
    (onward : Onward db after) : Catalogued snapshot after where
  leagues league member := onward.leagues _ (catalogued.leagues league member)
  teams team member := onward.teams _ (catalogued.teams team member)

/-- A loop that writes one item after the other, each so that it stays there. -/
theorem forM_stores {ι : Type} (stored : ι → Database → Prop) {body : ι → Service PUnit}
    {items : List ι} (stays : ∀ item db after, Unscheduled db after → stored item db → stored item after)
    (each : ∀ item ∈ items, ∀ now, Unscheduled db now →
      Returns (fun _ after => Unscheduled now after ∧ stored item after) (body item) now) :
    Returns (fun _ after => Unscheduled db after ∧ ∀ item ∈ items, stored item after)
      (items.forM body) db := by
  refine (Upholds.forM (fun rest now => ∃ done, items = done ++ rest ∧ Unscheduled db now ∧
    ∀ item ∈ done, stored item now) ?_ trivial ⟨[], rfl, .refl db, by simp⟩).mono ?_
  · rintro item rest now _ ⟨done, split, aside, before⟩
    have member : item ∈ items := by simp [split]
    refine (each item member now aside).mono ?_
    rintro _ after ⟨step, here⟩
    refine ⟨done ++ [item], by simp [split], aside.trans step, fun other among => ?_⟩
    rcases List.mem_append.mp among with earlier | same
    · exact stays other now after step (before other earlier)
    · obtain rfl := List.mem_singleton.mp same
      exact here
  · rintro _ after ⟨done, split, aside, all⟩
    rw [List.append_nil] at split
    exact ⟨aside, split ▸ all⟩

theorem upsertCatalog_returns (coherent : Coherent snapshot) :
    Returns (fun _ after => Unscheduled db after ∧ Catalogued snapshot after)
      (upsertCatalogFromSnapshot snapshot) db := by
  unfold upsertCatalogFromSnapshot
  refine Upholds.bind (forM_stores
    (fun sport now => now.catalog.sports.Has (NormalizedSport.key sport))
    (fun sport now after aside has => aside.sports _ has) ?_) ?_
  · intro sport _ now _
    exact (Upholds.attempt trivial fun _ _ => trivial).mono fun _ _ done => unscheduled_upsertSport done
  rintro _ now _ ⟨first, sports⟩
  refine Upholds.bind (Upholds.read trivial) ?_
  rintro sportKeys now' _ ⟨rfl, rfl⟩
  refine Upholds.bind (forM_stores
    (fun league now => now.catalog.leagues.Has (NormalizedLeague.key league))
    (fun league now after aside has => aside.leagues _ has) ?_) ?_
  · intro league member now _
    obtain ⟨sport, listed, same⟩ := coherent.leagues league member
    rw [if_pos ((mem_map_iff_has _ _).mpr (same ▸ sports sport listed))]
    exact (Upholds.write trivial trivial).mono
      fun _ after done => done ▸ unscheduled_upsertLeague now league
  rintro _ later _ ⟨second, leagues⟩
  refine (forM_stores
    (fun team now => now.catalog.teams.Has (NormalizedTeam.key team))
    (fun team now after aside has => aside.teams _ has) ?_).mono ?_
  · intro team member now _
    obtain ⟨sport, listed, same⟩ := coherent.teams team member
    rw [if_pos ((mem_map_iff_has _ _).mpr (same ▸ sports sport listed))]
    exact (Upholds.write trivial trivial).mono
      fun _ after done => done ▸ unscheduled_upsertTeam now team
  · rintro _ after ⟨third, teams⟩
    exact ⟨(first.trans second).trans third,
      fun league member => third.leagues _ (leagues league member), teams⟩

theorem syncTenantLeagues_returns (slug : String) (offered : List String) :
    Returns (fun _ after => Unscheduled db after) (syncTenantLeagues slug offered) db :=
  (Upholds.weaken (fun _ _ => trivial) (Unscheduled.refl db) (keeps_syncTenantLeagues
    (fun _ _ only held => held.trans only.unscheduled) slug offered (Unscheduled.refl db))).mono
    fun _ _ held => held.1

end Preparing

section Fixtures

variable {snapshot : ProviderSnapshot} {db : Database} {eventRef : String}

/-- The markets of the event, and their selections, are the same rows. -/
structure SameGame (eventRef : String) (db after : Database) : Prop where
  markets : ∀ market, before ':' market.providerRef = eventRef →
    (market ∈ after.catalog.markets ↔ market ∈ db.catalog.markets)
  selections : ∀ selection, before ':' selection.market = eventRef →
    (selection ∈ after.catalog.selections ↔ selection ∈ db.catalog.selections)

theorem SameGame.trans {first second third : Database} (former : SameGame eventRef first second)
    (latter : SameGame eventRef second third) : SameGame eventRef first third where
  markets market of := (latter.markets market of).trans (former.markets market of)
  selections selection of := (latter.selections selection of).trans (former.selections selection of)

theorem SameGames.sameGame {after : Database} (same : SameGames db after) :
    SameGame eventRef db after where
  markets _ _ := by rw [same.markets]
  selections _ _ := by rw [same.selections]

/-- A purge leaves the games of other fixtures alone. -/
theorem sameGame_purge (filed : Filed db) (ledger : Ledger) {fixtures : List String}
    (other : eventRef ∉ fixtures) :
    SameGame eventRef db { db with ledger, catalog := cascadeFixtures fixtures db.catalog } := by
  have stays : ∀ market ∈ db.catalog.markets, before ':' market.providerRef = eventRef →
      ∀ event ∈ db.catalog.events.get? market.event, event.fixture ∉ fixtures := by
    intro market stored of event found
    rw [← filed.markets market stored, of] at found
    obtain ⟨present, ref⟩ := Table.get?_eq_some_iff.mp found
    rwa [(filed.events event present).1, ref]
  constructor
  · intro market of
    refine ⟨fun stored => (Table.mem_deleteWhere.mp stored).1, fun stored => ?_⟩
    refine Table.mem_deleteWhere.mpr ⟨stored, ?_⟩
    dsimp only
    split
    · next event found => exact decide_eq_false (stays market stored of event found)
    · rfl
  · intro selection of
    refine ⟨fun stored => (Table.mem_deleteWhere.mp stored).1, fun stored => ?_⟩
    refine Table.mem_deleteWhere.mpr ⟨stored, ?_⟩
    obtain ⟨market, present, on⟩ := filed.selections selection stored
    simp only [← on, Table.get?_of_mem present]
    split
    · next event found => exact decide_eq_false (stays market present (on ▸ of) event found)
    · rfl

/-- What the live phase starts from: all fixtures are stored, and no listed game was purged. -/
structure Prepared (snapshot : ProviderSnapshot) (db after : Database) : Prop where
  filed : Filed after
  fixtures : ∀ fixture ∈ snapshot.fixtures, after.catalog.fixtures.Has fixture.providerRef
  games : ∀ event ∈ snapshot.events, SameGame event.providerRef db after

theorem Prepared.purge (coherent : Coherent snapshot) {now : Database}
    (prepared : Prepared snapshot db now) (ledger : Ledger) {fixtures : List String}
    (unlisted : ∀ fixture ∈ snapshot.fixtures, fixture.providerRef ∉ fixtures) :
    Prepared snapshot db { now with ledger, catalog := cascadeFixtures fixtures now.catalog } where
  filed := prepared.filed.purge ledger fixtures
  fixtures listed member := by
    obtain ⟨fixture, stored, same⟩ := prepared.fixtures listed member
    refine ⟨fixture, Table.mem_deleteWhere.mpr ⟨stored, ?_⟩, same⟩
    simpa [same] using unlisted listed member
  games event member := by
    obtain ⟨_, ⟨fixture, listed, same⟩, _⟩ := coherent.events event member
    exact (prepared.games event member).trans
      (sameGame_purge prepared.filed ledger (same ▸ unlisted fixture listed))

/-- What the fixtures loop makes of the fixtures, once it has passed some. -/
structure Scheduled (passed : List NormalizedFixture) (db after : Database) : Prop where
  stored : ∀ fixture ∈ passed, after.catalog.fixtures.Has fixture.providerRef
  rows : ∀ row ∈ after.catalog.fixtures,
    (∃ fixture ∈ passed, fixture.providerRef = row.providerRef ∧ row.status = fixture.status) ∨
    row ∈ db.catalog.fixtures ∧ ∀ fixture ∈ passed, fixture.providerRef ≠ row.providerRef

theorem Scheduled.refl (db : Database) : Scheduled [] db db :=
  ⟨by simp, fun _ stored => .inr ⟨stored, by simp⟩⟩

theorem Scheduled.upsertFixture {passed : List NormalizedFixture} {now after : Database}
    {fixture : NormalizedFixture} {startsAt : Option Time} (scheduled : Scheduled passed db now)
    (done : upsertFixture now fixture startsAt = .ok after) :
    Scheduled (passed ++ [fixture]) db after := by
  have step := fixturesOnly_upsertFixture done
  constructor
  · intro other among
    rcases List.mem_append.mp among with earlier | here
    · exact step.1.unpriced.fixtures _ (scheduled.stored other earlier)
    · obtain rfl := List.mem_singleton.mp here
      exact step.2
  · unfold Ingestion.upsertFixture at done
    split at done
    · cases done
    obtain rfl := Except.ok.inj done
    intro row stored
    rcases Table.mem_put.mp stored with rfl | ⟨old, differs⟩
    · exact .inl ⟨fixture, by simp, rfl, rfl⟩
    · rcases scheduled.rows row old with ⟨other, earlier, same⟩ | ⟨kept, unlisted⟩
      · exact .inl ⟨other, List.mem_append_left _ earlier, same⟩
      · refine .inr ⟨kept, fun other among => ?_⟩
        rcases List.mem_append.mp among with earlier | here
        · exact unlisted other earlier
        · obtain rfl := List.mem_singleton.mp here
          exact fun same => differs same.symm

/-- Every listed fixture is stored, since its league and its teams are. -/
theorem fixturesLoop_returns (runtime : Runtime) {leagueKeys teamKeys : List String}
    (known : ∀ fixture ∈ snapshot.fixtures, fixture.leagueKey ∈ leagueKeys ∧
      fixture.homeTeamKey ∈ teamKeys ∧ fixture.awayTeamKey ∈ teamKeys) :
    Returns (fun _ after => Unpriced db after ∧ Scheduled snapshot.fixtures db after)
      (snapshot.fixtures.foldlM (fun count fixture =>
        if fixture.leagueKey ∈ leagueKeys ∧ fixture.homeTeamKey ∈ teamKeys ∧
            fixture.awayTeamKey ∈ teamKeys then do
          attempt fun db => upsertFixture db fixture (runtime.dateParse fixture.startsAt)
          pure (count + 1)
        else pure count) 0) db := by
  refine (Upholds.foldlM (fun rest _ now => ∃ done, snapshot.fixtures = done ++ rest ∧
    Unpriced db now ∧ Scheduled done db now) ?_ trivial ⟨[], rfl, .refl db, .refl db⟩).mono ?_
  · rintro fixture rest count now _ ⟨done, split, onward, scheduled⟩
    rw [if_pos (known fixture (by simp [split]))]
    refine Upholds.bind (Upholds.attempt trivial fun _ _ => trivial) ?_
    rintro _ after _ stored
    have step := (fixturesOnly_upsertFixture stored).1.unpriced
    exact Upholds.pure trivial ⟨done ++ [fixture], by simp [split], onward.trans step,
      scheduled.upsertFixture stored⟩
  · rintro _ after ⟨done, split, onward, scheduled⟩
    rw [List.append_nil] at split
    exact ⟨onward, split ▸ scheduled⟩

/-- The fixtures phase ends where its loop ends, but for a purge of fixtures that the snapshot
does not list. -/
theorem upsertFixtures_holds (runtime : Runtime) (isOddsApi purgeStale : Bool)
    (coherent : Coherent snapshot) (catalogued : Catalogued snapshot db) {holds : Database → Prop}
    (scheduled : ∀ after, Unpriced db after → Scheduled snapshot.fixtures db after → holds after)
    (purged : ∀ now ledger fixtures, holds now →
      (∀ fixture ∈ snapshot.fixtures, fixture.providerRef ∉ fixtures) →
      holds { now with ledger, catalog := cascadeFixtures fixtures now.catalog }) :
    Returns (fun _ after => holds after)
      (upsertFixturesFromSnapshot runtime isOddsApi snapshot purgeStale) db := by
  unfold upsertFixturesFromSnapshot
  refine Upholds.bind (Upholds.read trivial) ?_
  rintro leagueKeys now _ ⟨rfl, rfl⟩
  refine Upholds.bind (Upholds.read trivial) ?_
  rintro teamKeys now' _ ⟨rfl, rfl⟩
  have known : ∀ fixture ∈ snapshot.fixtures,
      fixture.leagueKey ∈ now'.catalog.leagues.rows.map League.key ∧
      fixture.homeTeamKey ∈ now'.catalog.teams.rows.map Team.key ∧
      fixture.awayTeamKey ∈ now'.catalog.teams.rows.map Team.key := by
    intro fixture member
    obtain ⟨⟨league, one, under⟩, ⟨home, two, first⟩, away, three, second⟩ :=
      coherent.fixtures fixture member
    simp only [mem_map_iff_has, ← under, ← first, ← second]
    exact ⟨catalogued.leagues league one, catalogued.teams home two, catalogued.teams away three⟩
  refine Upholds.bind (fixturesLoop_returns runtime known) ?_
  rintro count now _ ⟨onward, fixtures⟩
  have held := scheduled now onward fixtures
  split
  · exact Upholds.pure trivial held
  dsimp only
  split
  · exact Upholds.pure trivial held
  refine Upholds.bind (Upholds.weaken (fun _ _ => trivial) held
    (keeps_deleteStaleFixtures held ?_)) fun _ _ _ held => Upholds.pure trivial held.1
  intro gone ledger chosen
  refine purged now ledger gone held fun fixture listed among => ?_
  obtain ⟨row, same, stale, _⟩ := chosen _ among
  rw [same] at stale
  simp only [Bool.and_eq_true, decide_eq_true_iff] at stale
  exact stale.2 (List.mem_filter.mpr ⟨List.mem_map_of_mem listed, stale.1⟩)

theorem upsertFixtures_returns (runtime : Runtime) (isOddsApi purgeStale : Bool)
    (coherent : Coherent snapshot) (catalogued : Catalogued snapshot db) (filed : Filed db) :
    Returns (fun _ after => Prepared snapshot db after)
      (upsertFixturesFromSnapshot runtime isOddsApi snapshot purgeStale) db := by
  apply upsertFixtures_holds runtime isOddsApi purgeStale coherent catalogued
  · intro after onward scheduled
    exact ⟨filed.onward onward.toOnward, scheduled.stored,
      fun _ _ => onward.toSameGames.sameGame⟩
  · exact fun now ledger fixtures prepared unlisted => prepared.purge coherent ledger unlisted

end Fixtures

section Live

variable {snapshot : ProviderSnapshot} {db : Database} {event : NormalizedEvent}

/-- The snapshot has been put over what the database had of the event. -/
structure Stores (snapshot : ProviderSnapshot) (event : NormalizedEvent) (db after : Database) :
    Prop where
  stored : eventRow event ∈ after.catalog.events
  onBase : ∃ base : Database, SameGame event.providerRef db base ∧
    base.catalog.markets.Overlays NormalizedMarket.providerRef WritesMarket snapshot.markets
      after.catalog.markets ∧
    base.catalog.selections.Overlays NormalizedSelection.providerRef WritesSelection
      snapshot.selections after.catalog.selections

/-- Closing one event leaves the game of another alone. -/
theorem sameGame_closeEnded (filed : Filed db) {other : NormalizedEvent} {eventRef : String}
    (apart : other.status = .ended → other.providerRef ≠ eventRef) :
    SameGame eventRef db (closeEnded db other) := by
  unfold closeEnded
  split
  · next past =>
      have differs := apart past
      have untouched : ∀ market ∈ db.catalog.markets, before ':' market.providerRef = eventRef →
          market.event ≠ other.providerRef := by
        intro market stored of
        rw [← filed.markets market stored, of]
        exact differs.symm
      constructor
      · intro market of
        refine mem_settleMarkets_of_spared fun old stored same => untouched old stored ?_
        rw [same, of]
      · intro selection of
        refine mem_settleSelections_of_spared fun old stored same => ?_
        rw [selectionOfEvent_settleMarkets, Bool.eq_false_iff]
        intro under
        obtain ⟨market, present, on, under⟩ := selectionOfEvent_iff.mp under
        exact untouched market present (by rw [on, same, of]) under
  · exact ⟨fun _ _ => .rfl, fun _ _ => .rfl⟩

/-- A name at the head of a rest was not passed before. -/
theorem fresh_of_nodup {Item : Type} {ref : Item → String} {done rest : List Item} {item : Item}
    (once : ((done ++ item :: rest).map ref).Nodup) : ∀ other ∈ done, ref other ≠ ref item := by
  intro other passed
  rw [List.map_append, List.nodup_append] at once
  exact once.2.2 _ (List.mem_map_of_mem passed) _ (by simp)

/-- The event loop stores every event of the snapshot, and closes none that goes on. -/
theorem ingestEvents_stores (coherent : Coherent snapshot) (filed : Filed db)
    (fixtures : ∀ event ∈ snapshot.events, db.catalog.fixtures.Has event.providerRef)
    (listed : event ∈ snapshot.events) (running : event.status ≠ .ended) :
    Returns (fun _ after => SameGame event.providerRef db after ∧
        ∀ other ∈ snapshot.events, eventRow other ∈ after.catalog.events)
      (snapshot.events.foldlM
        (ingestEvent (db.catalog.fixtures.rows.map Fixture.providerRef)) 0) db := by
  refine (ingestEvents_returns (fun rest now => now.catalog.fixtures = db.catalog.fixtures ∧
    Filed now ∧ SameGame event.providerRef db now ∧ ∃ done, snapshot.events = done ++ rest ∧
      ∀ other ∈ done, eventRow other ∈ now.catalog.events) ?_ ?_ ?_).mono ?_
  · rintro other rest now written ⟨same, filed, game, done, split, before⟩ _ stored
    have member : other ∈ snapshot.events := by simp [split]
    have rows := filed.upsertEvent coherent member stored
    obtain rfl := upsertEvent_ok stored
    refine ⟨(closeEnded_fixtures _ other).trans same, rows.closeEnded other, ?_, done ++ [other],
      by simp [split], ?_⟩
    · refine (game.trans ?_).trans (sameGame_closeEnded rows fun past ref => ?_)
      · exact ⟨fun _ _ => .rfl, fun _ _ => .rfl⟩
      · rw [coherent.event_eq member listed ref] at past
        exact running past
    · intro earlier among
      rw [closeEnded_events]
      rcases List.mem_append.mp among with passed | here
      · exact Table.mem_put.mpr (.inr ⟨before earlier passed,
          fresh_of_nodup (split ▸ coherent.eventsOnce) earlier passed⟩)
      · obtain rfl := List.mem_singleton.mp here
        exact Table.mem_put_self _ _
  · rintro other rest now ⟨same, _, _, done, split, _⟩ unknown
    have member : other ∈ snapshot.events := by simp [split]
    rw [same, (coherent.events other member).1] at unknown
    exact absurd (fixtures other member) unknown
  · exact ⟨rfl, filed, ⟨fun _ _ => .rfl, fun _ _ => .rfl⟩, [], rfl, by simp⟩
  · rintro _ after ⟨_, _, game, done, split, all⟩
    rw [List.append_nil] at split
    exact ⟨game, split ▸ all⟩

theorem ingestMarkets_stores (coherent : Coherent snapshot)
    (events : ∀ event ∈ snapshot.events, db.catalog.events.Has event.providerRef) :
    Returns (fun _ after => after.catalog.events = db.catalog.events ∧
        after.catalog.selections = db.catalog.selections ∧
        db.catalog.markets.Overlays NormalizedMarket.providerRef WritesMarket snapshot.markets
          after.catalog.markets)
      (snapshot.markets.foldlM
        (ingestMarket (db.catalog.events.rows.map Event.providerRef)) 0) db := by
  refine (ingestMarkets_returns (fun rest now => now.catalog.events = db.catalog.events ∧
    now.catalog.selections = db.catalog.selections ∧ ∃ done, snapshot.markets = done ++ rest ∧
      db.catalog.markets.Overlays NormalizedMarket.providerRef WritesMarket done
        now.catalog.markets) ?_ ?_ ⟨rfl, rfl, [], rfl, .refl ..⟩).mono ?_
  · rintro market rest now after ⟨same, selections, done, split, overlays⟩ _ stored
    obtain ⟨row, writes, rfl⟩ := upsertMarket_writes stored
    refine ⟨same, selections, done ++ [market], by simp [split], ?_⟩
    refine overlays.put ?_ (fresh_of_nodup (split ▸ coherent.marketsOnce)) writes
    rintro item _ ⟨_, _, rfl⟩
    rfl
  · rintro market rest now ⟨same, _, done, split, _⟩ unknown
    obtain ⟨_, event, listed, ref, _⟩ := coherent.markets market (by simp [split])
    rw [same, ← ref] at unknown
    exact absurd (events event listed) unknown
  · rintro _ after ⟨same, selections, done, split, overlays⟩
    rw [List.append_nil] at split
    exact ⟨same, selections, split ▸ overlays⟩

theorem ingestSelections_stores (coherent : Coherent snapshot) (prices : String → Option ℚ)
    (markets : ∀ market ∈ snapshot.markets, db.catalog.markets.Has market.providerRef) :
    Returns (fun _ after => after.catalog.events = db.catalog.events ∧
        after.catalog.markets = db.catalog.markets ∧
        db.catalog.selections.Overlays NormalizedSelection.providerRef WritesSelection
          snapshot.selections after.catalog.selections)
      (snapshot.selections.foldlM
        (ingestSelection (db.catalog.markets.rows.map Market.providerRef) prices) (0, 0)) db := by
  refine (ingestSelections_returns (fun rest now => now.catalog.events = db.catalog.events ∧
    now.catalog.markets = db.catalog.markets ∧ ∃ done, snapshot.selections = done ++ rest ∧
      db.catalog.selections.Overlays NormalizedSelection.providerRef WritesSelection done
        now.catalog.selections) ?_ ?_ prices ⟨rfl, rfl, [], rfl, .refl ..⟩).mono ?_
  · rintro selection rest now written odds ⟨events, same, done, split, overlays⟩ _ stored
    obtain ⟨row, writes, rfl⟩ := upsertSelection_writes stored
    refine ⟨events, same, done ++ [selection], by simp [split], ?_⟩
    refine overlays.put ?_ (fresh_of_nodup (split ▸ coherent.selectionsOnce)) writes
    rintro item _ ⟨_, _, _, _, rfl⟩
    rfl
  · rintro selection rest now ⟨_, same, done, split, _⟩ unknown
    obtain ⟨market, listed, ref, _⟩ := coherent.selections selection (by simp [split])
    rw [same, ← ref] at unknown
    exact absurd (markets market listed) unknown
  · rintro _ after ⟨events, same, done, split, overlays⟩
    rw [List.append_nil] at split
    exact ⟨events, same, split ▸ overlays⟩

/-- The live phase puts the snapshot over what was there. -/
theorem ingestLiveData_stores (coherent : Coherent snapshot) (filed : Filed db)
    (fixtures : ∀ event ∈ snapshot.events, db.catalog.fixtures.Has event.providerRef)
    (listed : event ∈ snapshot.events) (running : event.status ≠ .ended) :
    Returns (fun _ after => Stores snapshot event db after) (ingestLiveData snapshot) db := by
  refine ingestLiveData_returns snapshot
    (fun base => SameGame event.providerRef db base ∧
      ∀ other ∈ snapshot.events, eventRow other ∈ base.catalog.events)
    (fun now => ∃ base : Database, SameGame event.providerRef db base ∧
      eventRow event ∈ now.catalog.events ∧
      now.catalog.selections = base.catalog.selections ∧
      base.catalog.markets.Overlays NormalizedMarket.providerRef WritesMarket snapshot.markets
        now.catalog.markets)
    (Stores snapshot event db) (ingestEvents_stores coherent filed fixtures listed running) ?_ ?_
  · rintro base ⟨game, stored⟩
    refine (ingestMarkets_stores coherent fun other member => ⟨_, stored other member, rfl⟩).mono ?_
    rintro _ now ⟨events, selections, markets⟩
    exact ⟨base, game, events ▸ stored event listed, selections, markets⟩
  · rintro now prices ⟨base, game, stored, same, markets⟩
    refine (ingestSelections_stores coherent prices fun market member => ?_).mono ?_
    · obtain ⟨row, there, _, _, rfl⟩ := markets.written market member
      exact ⟨_, there, rfl⟩
    · rintro _ after ⟨events, sameMarkets, selections⟩
      exact ⟨events ▸ stored, base, game, sameMarkets ▸ markets, same ▸ selections⟩

end Live

section Runs

variable {snapshot : ProviderSnapshot} {db : Database} {event : NormalizedEvent}
  {runtime : Runtime} {isOddsApi : Bool}

/-- A catalog run or a live one applies the snapshot. -/
def IngestRun.Applies : IngestRun → Database → ProviderSnapshot → Prop
  | .catalog fetched, _, snapshot => fetched = .ok snapshot
  | .live now prestartMinutes (some fetch), db, snapshot =>
      liveSportKeys now prestartMinutes db ≠ [] ∧
        fetch (liveSportKeys now prestartMinutes db) = .ok snapshot
  | _, _, _ => False

theorem Stores.of_game {now after : Database} (stores : Stores snapshot event now after)
    (game : SameGame event.providerRef db now) : Stores snapshot event db after := by
  obtain ⟨stored, base, same, markets, selections⟩ := stores
  exact ⟨stored, base, game.trans same, markets, selections⟩

theorem fixturesThenLive_stores {α : Type} (purgeStale : Bool) (summary : ℕ → LiveCounts → α)
    (coherent : Coherent snapshot) {now : Database} (onward : Onward db now)
    (catalogued : Catalogued snapshot now) (filed : Filed db) (listed : event ∈ snapshot.events)
    (running : event.status ≠ .ended) :
    Returns (fun _ after => Stores snapshot event db after) (do
      let fixtureCount ← upsertFixturesFromSnapshot runtime isOddsApi snapshot purgeStale
      let live ← ingestLiveData snapshot
      pure (summary fixtureCount live)) now := by
  refine Upholds.bind (upsertFixtures_returns runtime isOddsApi purgeStale coherent catalogued
    (filed.onward onward)) ?_
  rintro count mid _ prepared
  refine Upholds.bind (ingestLiveData_stores coherent prepared.filed (fun other member => ?_) listed
    running) ?_
  · obtain ⟨_, ⟨fixture, among, same⟩, _⟩ := coherent.events other member
    exact same ▸ prepared.fixtures fixture among
  · rintro live after _ stores
    refine Upholds.pure trivial ((stores.of_game (prepared.games event listed)).of_game ?_)
    exact onward.toSameGames.sameGame

/-- Where a run comes to: it applied nothing, or it ended with the fixtures phase and the live
phase of its snapshot. -/
theorem run_returns {post : Database → Prop} (run : IngestRun)
    (coherent : ∀ snapshot, run.Applies db snapshot → Coherent snapshot)
    (idle : (∀ snapshot, ¬ run.Applies db snapshot) → post db)
    (applied : ∀ snapshot, run.Applies db snapshot → ∀ now, Unscheduled db now →
      Catalogued snapshot now → ∀ (purgeStale : Bool) {α : Type} (summary : ℕ → LiveCounts → α),
      Returns (fun _ after => post after) (do
        let fixtureCount ← upsertFixturesFromSnapshot runtime isOddsApi snapshot purgeStale
        let live ← ingestLiveData snapshot
        pure (summary fixtureCount live)) now)
    (results : ∀ snapshot, run = .results snapshot →
      Returns (fun _ after => post after) (ingestLiveData snapshot) db) :
    Returns (fun _ after => post after) (run.program runtime isOddsApi) db := by
  cases run with
  | catalog fetched =>
      refine Upholds.void ?_
      unfold ingestFixtures
      cases fetched with
      | error failure => exact Upholds.throw trivial
      | ok snapshot =>
          refine Upholds.bind (upsertCatalog_returns (coherent snapshot rfl)) ?_
          rintro _ first _ ⟨one, catalogued⟩
          refine Upholds.bind (syncTenantLeagues_returns _ _) fun _ second _ two => ?_
          refine Upholds.bind (syncTenantLeagues_returns _ _) fun _ third _ three => ?_
          exact applied snapshot rfl third ((one.trans two).trans three)
            ((catalogued.onward two.toOnward).onward three.toOnward) true _
  | live now prestartMinutes fetchLiveSnapshot =>
      refine Upholds.void ?_
      unfold ingestLiveTick
      refine Upholds.bind (Upholds.read trivial) ?_
      rintro sportKeys mid _ ⟨rfl, rfl⟩
      cases fetchLiveSnapshot with
      | none =>
          split
          · exact Upholds.pure trivial (idle fun _ applies => applies.elim)
          · exact Upholds.throw trivial
      | some fetch =>
          split
          · next empty =>
              exact Upholds.pure trivial
                (idle fun _ applies => applies.1 (List.isEmpty_iff.mp empty))
          · next live =>
              dsimp only
              split
              · exact Upholds.throw trivial
              · next snapshot fetched =>
                  have applies : IngestRun.Applies (.live now prestartMinutes (some fetch)) mid
                      snapshot := ⟨by simpa using live, fetched⟩
                  refine Upholds.bind (upsertCatalog_returns (coherent snapshot applies)) ?_
                  rintro _ first _ ⟨aside, catalogued⟩
                  exact applied snapshot applies first aside catalogued false _
  | results snapshot => exact Upholds.void (results snapshot rfl)

/-- A run applies the one snapshot that it fetches. -/
theorem IngestRun.applied_eq {run : IngestRun} {db : Database} {snapshot fetched : ProviderSnapshot}
    (applies : run.Applies db snapshot) (fetches : run.Fetches db fetched) : fetched = snapshot := by
  cases run with
  | catalog answer => exact Except.ok.inj (fetches.symm.trans applies)
  | live now prestartMinutes fetchLiveSnapshot =>
      cases fetchLiveSnapshot with
      | none => exact applies.elim
      | some fetch => exact Except.ok.inj (fetches.symm.trans applies.2)
  | results given => exact applies.elim

theorem IngestRun.Applies.fetches {run : IngestRun} {db : Database} {snapshot : ProviderSnapshot}
    (applies : run.Applies db snapshot) : run.Fetches db snapshot := by
  cases run with
  | catalog answer => exact applies
  | live now prestartMinutes fetchLiveSnapshot =>
      cases fetchLiveSnapshot with
      | none => exact applies.elim
      | some fetch => exact applies.2
  | results given => exact applies.elim

/-- **A complete run stores its snapshot** over what the games had. -/
theorem run_stores {run : IngestRun} (moves : List (Move databaseMachine))
    (applies : run.Applies db snapshot) (coherent : Coherent snapshot) (filed : Filed db)
    (listed : event ∈ snapshot.events) (running : event.status ≠ .ended)
    (returned : Session.Returned ⟨run.program runtime isOddsApi, moves⟩ db) :
    Stores snapshot event db (Session.result ⟨run.program runtime isOddsApi, moves⟩ db) := by
  have same : ∀ fetched, run.Applies db fetched → fetched = snapshot :=
    fun fetched applied => IngestRun.applied_eq applies applied.fetches
  suffices safe : Returns (fun _ after => Stores snapshot event db after)
      (run.program runtime isOddsApi) db from (Upholds.result trivial safe).2 returned
  refine run_returns run ?_ ?_ ?_ ?_
  · intro fetched applied
    exact same fetched applied ▸ coherent
  · exact fun none => absurd applies (none snapshot)
  · intro fetched applied now aside catalogued purgeStale α summary
    obtain rfl := same fetched applied
    exact fixturesThenLive_stores purgeStale summary coherent aside.toOnward catalogued filed listed
      running
  · rintro given rfl
    exact applies.elim

end Runs

end SportsBetting.Ingestion
