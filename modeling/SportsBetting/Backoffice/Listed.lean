import SportsBetting.Backoffice.Merchants

/-!
# The back office's listing and the offer to players

Where a tenant has no row for a league, the back office shows the league as
enabled and no player can bet on it. A tenant gets its rows when it is created;
for leagues that come later, only the ingest writes rows, for two tenants.
-/

namespace SportsBetting.Product

open Async

/-- The listing shows as enabled what players can bet on. -/
def Agrees (configured : List String) (db : Database) (casinoGroupId : String) : Prop :=
  ∀ offerings, ((listLeagues configured casinoGroupId).eval db).1 = .ok offerings →
    ∀ row ∈ offerings, row.enabled = leagueEnabled db casinoGroupId row.leagueId

def activeKeys (db : Database) : List String :=
  (db.catalog.leagues.rows.filter League.active).map League.key

/-- The listing has the league. -/
def Listed (configured : List String) (db : Database) (league : League) : Prop :=
  league ∈ db.catalog.leagues ∧ league.active = true ∧
    league.key ∈ resolveCatalogLeagueKeys configured (activeKeys db) ∧
    db.catalog.sports.Has league.sport

/-- The tenant has a row for every active league of the ingest scope. -/
def HasRows (configured : List String) (db : Database) (casinoGroupId : String) : Prop :=
  ∀ league ∈ db.catalog.leagues, league.active = true →
    league.key ∈ resolveCatalogLeagueKeys configured (activeKeys db) →
      db.catalog.casinoGroupLeagues.Has (casinoGroupId, league.key)

def Complete (configured : List String) (db : Database) : Prop :=
  ∀ group ∈ db.catalog.casinoGroups, HasRows configured db group.id

section Listing

variable {configured : List String} {db : Database} {casinoGroupId : String}

theorem mem_activeKeys {key : String} :
    key ∈ activeKeys db ↔ ∃ league ∈ db.catalog.leagues, league.key = key ∧ league.active = true := by
  simp only [activeKeys, List.mem_map, List.mem_filter, Table.mem_rows]
  grind

/-- A key that is resolved from a catalog is resolved from any part of it that has the key. -/
theorem mem_resolveCatalogLeagueKeys_of_subset {keys more : List String} {key : String}
    (sub : keys ⊆ more) (own : key ∈ keys)
    (resolved : key ∈ resolveCatalogLeagueKeys configured more) :
    key ∈ resolveCatalogLeagueKeys configured keys := by
  unfold resolveCatalogLeagueKeys at *
  split at resolved
  · next all => rwa [if_pos all]
  · next chosen =>
      rw [if_neg chosen]
      simp only [List.mem_eraseDups, List.mem_flatMap] at resolved ⊢
      obtain ⟨entry, listed, found⟩ := resolved
      refine ⟨entry, listed, ?_⟩
      by_cases all : entry = "all"
      · simp [all] at found
      by_cases known : entry ∈ more
      · have same : key = entry := by simpa [all, known] using found
        have present : entry ∈ keys := same ▸ own
        simp [all, present, same]
      · have absent : entry ∉ keys := fun present => known (sub present)
        simp only [all, known, if_false, List.mem_filter] at found
        simp only [all, absent, if_false, List.mem_filter]
        exact ⟨own, found.2⟩

theorem leagueOffering_eq_some {league : League} {row : LeagueOffering}
    (offered : leagueOffering db casinoGroupId league = some row) :
    db.catalog.sports.Has league.sport ∧ row.leagueId = league.key ∧
      row.enabled = ((db.catalog.casinoGroupLeagues.get? (casinoGroupId, league.key)).map
        CasinoGroupLeague.enabled).getD true := by
  unfold leagueOffering at offered
  cases found : db.catalog.sports.get? league.sport with
  | none =>
      rw [found] at offered
      cases offered
  | some sport =>
      rw [found] at offered
      obtain rfl := Option.some.inj offered
      exact ⟨⟨sport, Table.get?_eq_some_iff.mp found⟩, rfl, rfl⟩

theorem mem_leagueOfferings {keys : List String} {row : LeagueOffering} :
    row ∈ leagueOfferings db casinoGroupId keys ↔
      ∃ league ∈ db.catalog.leagues, league.active = true ∧ league.key ∈ keys ∧
        leagueOffering db casinoGroupId league = some row := by
  simp only [leagueOfferings, List.mem_insertionSort, List.mem_filterMap, List.mem_filter,
    Bool.and_eq_true, decide_eq_true_eq, Table.mem_rows]
  grind

/-- The listing of a stored tenant. -/
theorem listLeagues_eval (stored : db.catalog.casinoGroups.Has casinoGroupId) :
    (listLeagues configured casinoGroupId).eval db =
      (.ok (leagueOfferings db casinoGroupId
        (resolveCatalogLeagueKeys configured (activeKeys db))), db) := by
  obtain ⟨group, member, same⟩ := stored
  have found := Table.get?_eq_some_iff.mpr ⟨member, same⟩
  simp only [listLeagues, assertCasinoGroup, allowedCatalogLeagueKeys, read, bind_assoc,
    Program.eval_read_bind, found, Program.pure_eq, Program.bind_ok]
  split
  · next empty =>
      rw [activeKeys, List.isEmpty_iff.mp empty]
      simp [leagueOfferings]
  · rw [Program.eval_read]
    rfl

theorem listLeagues_eval_of_missing (missing : ¬ db.catalog.casinoGroups.Has casinoGroupId) :
    (listLeagues configured casinoGroupId).eval db =
      (.error (.notFound "Casino group not found"), db) := by
  have found : db.catalog.casinoGroups.get? casinoGroupId = none :=
    Table.get?_eq_none_iff.mpr fun group member same => missing ⟨group, member, same⟩
  simp only [listLeagues, assertCasinoGroup, read, bind_assoc, Program.eval_read_bind, found]
  rfl

/-- The listing agrees with the offer exactly if the tenant has a row for every listed league. -/
theorem agrees_iff : Agrees configured db casinoGroupId ↔
    (db.catalog.casinoGroups.Has casinoGroupId → ∀ league, Listed configured db league →
      db.catalog.casinoGroupLeagues.Has (casinoGroupId, league.key)) := by
  have shown_iff : ∀ league : String,
      ((db.catalog.casinoGroupLeagues.get? (casinoGroupId, league)).map
        CasinoGroupLeague.enabled).getD true = leagueEnabled db casinoGroupId league ↔
      db.catalog.casinoGroupLeagues.Has (casinoGroupId, league) := by
    intro league
    unfold leagueEnabled
    cases found : db.catalog.casinoGroupLeagues.get? (casinoGroupId, league) with
    | none =>
        have missing := Table.get?_eq_none_iff.mp found
        simpa using missing
    | some row => simpa using ⟨row, Table.get?_eq_some_iff.mp found⟩
  by_cases stored : db.catalog.casinoGroups.Has casinoGroupId
  · simp only [Agrees, listLeagues_eval stored, Except.ok.injEq, forall_eq', mem_leagueOfferings]
    constructor
    · intro agrees _ league listed
      obtain ⟨member, active, allowed, sport⟩ := listed
      obtain ⟨sport, kept, same⟩ := sport
      have found := Table.get?_eq_some_iff.mpr ⟨kept, same⟩
      have offered : ∃ row, leagueOffering db casinoGroupId league = some row := by
        simp [leagueOffering, found]
      obtain ⟨row, offered⟩ := offered
      have shown := agrees row ⟨league, member, active, allowed, offered⟩
      obtain ⟨_, id, enabled⟩ := leagueOffering_eq_some offered
      rw [id, enabled] at shown
      exact (shown_iff league.key).mp shown
    · intro complete row listed
      obtain ⟨league, member, active, allowed, offered⟩ := listed
      obtain ⟨sport, id, enabled⟩ := leagueOffering_eq_some offered
      rw [id, enabled, shown_iff]
      exact complete stored league ⟨member, active, allowed, sport⟩
  · simp only [Agrees, listLeagues_eval_of_missing stored]
    simp [stored]

theorem Complete.agrees (complete : Complete configured db) (casinoGroupId : String) :
    Agrees configured db casinoGroupId := by
  refine agrees_iff.mpr fun stored league listed => ?_
  obtain ⟨group, member, rfl⟩ := stored
  exact complete group member league listed.1 listed.2.1 listed.2.2.1

end Listing

section Growth

/-- Leagues are only added, of the given keys, and keep their activity; rows are not lost. -/
structure Grows (added : String → Prop) (before after : Database) : Prop where
  groups : after.catalog.casinoGroups = before.catalog.casinoGroups
  leagues : ∀ league ∈ after.catalog.leagues,
    (∃ old ∈ before.catalog.leagues, old.key = league.key ∧ old.active = league.active) ∨
      added league.key
  kept : ∀ old ∈ before.catalog.leagues,
    ∃ league ∈ after.catalog.leagues, league.key = old.key ∧ league.active = old.active
  rows : ∀ key, before.catalog.casinoGroupLeagues.Has key →
    after.catalog.casinoGroupLeagues.Has key

variable {configured : List String} {added : String → Prop} {before db after : Database}

theorem Grows.of_same (groups : after.catalog.casinoGroups = before.catalog.casinoGroups)
    (leagues : after.catalog.leagues = before.catalog.leagues)
    (rows : ∀ key, before.catalog.casinoGroupLeagues.Has key →
      after.catalog.casinoGroupLeagues.Has key) : Grows added before after where
  groups := groups
  leagues league stored := .inl ⟨league, leagues ▸ stored, rfl, rfl⟩
  kept old stored := ⟨old, leagues ▸ stored, rfl, rfl⟩
  rows := rows

theorem Grows.refl (db : Database) : Grows added db db :=
  Grows.of_same rfl rfl fun _ => id

theorem Grows.trans (first : Grows added before db) (second : Grows (fun _ => False) db after) :
    Grows added before after where
  groups := second.groups.trans first.groups
  leagues league stored := by
    obtain ⟨middle, present, key, active⟩ := (second.leagues league stored).resolve_right id
    rcases first.leagues middle present with ⟨old, known, same, kept⟩ | new
    · exact .inl ⟨old, known, same.trans key, kept.trans active⟩
    · exact .inr (key ▸ new)
  kept old stored := by
    obtain ⟨middle, present, key, active⟩ := first.kept old stored
    obtain ⟨league, last, same, kept⟩ := second.kept middle present
    exact ⟨league, last, same.trans key, kept.trans active⟩
  rows key has := second.rows key (first.rows key has)

theorem Grows.activeKeys (grows : Grows added before after) :
    Product.activeKeys before ⊆ Product.activeKeys after := by
  intro key member
  obtain ⟨old, stored, rfl, active⟩ := mem_activeKeys.mp member
  obtain ⟨league, present, same, kept⟩ := grows.kept old stored
  exact mem_activeKeys.mpr ⟨league, present, same, kept.trans active⟩

/-- A league is upserted that was there before, or may be added. -/
theorem Grows.upsertLeague (grows : Grows added before db) {league : NormalizedLeague}
    (new : ¬ before.catalog.leagues.Has league.key → added league.key) :
    Grows added before (Ingestion.upsertLeague db league) := by
  have activity : ∀ old ∈ db.catalog.leagues, old.key = league.key →
      ((db.catalog.leagues.get? league.key).map League.active).getD true = old.active := by
    intro old stored same
    rw [Table.get?_eq_some_iff.mpr ⟨stored, same⟩]
    rfl
  refine ⟨grows.groups, fun row stored => ?_, fun old stored => ?_, grows.rows⟩
  · rcases Table.mem_put.mp stored with rfl | ⟨present, _⟩
    · by_cases known : before.catalog.leagues.Has league.key
      · obtain ⟨old, first, same⟩ := known
        obtain ⟨middle, present, key, active⟩ := grows.kept old first
        refine .inl ⟨old, first, same, ?_⟩
        exact (active.symm.trans (activity middle present (key.trans same)).symm)
      · exact .inr (new known)
    · exact grows.leagues row present
  · obtain ⟨middle, present, key, active⟩ := grows.kept old stored
    by_cases same : middle.key = league.key
    · exact ⟨_, Table.mem_put_self _ _, same.symm.trans key,
        (activity middle present same).trans active⟩
    · exact ⟨middle, Table.mem_put.mpr (.inr ⟨present, same⟩), key, active⟩

/-- Growth keeps the rows of a tenant that has rows for all leagues, or for which no
added league is in scope. -/
theorem HasRows.grows {casinoGroupId : String} (has : HasRows configured before casinoGroupId)
    (grows : Grows added before after)
    (covered : (∀ league ∈ after.catalog.leagues,
        after.catalog.casinoGroupLeagues.Has (casinoGroupId, league.key)) ∨
      ∀ key, added key → key ∉ resolveCatalogLeagueKeys configured (activeKeys before ++ [key])) :
    HasRows configured after casinoGroupId := by
  intro league stored active allowed
  rcases covered with all | outside
  · exact all league stored
  have now : league.key ∈ activeKeys after := mem_activeKeys.mpr ⟨league, stored, rfl, active⟩
  rcases grows.leagues league stored with ⟨old, known, same, kept⟩ | new
  · have own : league.key ∈ activeKeys before :=
      mem_activeKeys.mpr ⟨old, known, same, kept.trans active⟩
    have earlier := mem_resolveCatalogLeagueKeys_of_subset grows.activeKeys own allowed
    rw [← same] at earlier ⊢
    exact grows.rows _ (has old known (kept.trans active) earlier)
  · refine absurd ?_ (outside league.key new)
    refine mem_resolveCatalogLeagueKeys_of_subset ?_ (by simp) allowed
    intro key member
    rcases List.mem_append.mp member with old | here
    · exact grows.activeKeys old
    · rwa [List.mem_singleton.mp here]

end Growth

section Calls

/-- The query takes no league or row away and changes no tenant. -/
def Extends {Reply : Type} (query : Query Database Failure Reply) : Prop :=
  ∀ db, Grows (fun _ => False) db (query db).2

/-- The query writes to none of leagues, tenants and rows. -/
def SameOffering (before after : Database) : Prop :=
  after.catalog.casinoGroups = before.catalog.casinoGroups ∧
  after.catalog.leagues = before.catalog.leagues ∧
  after.catalog.casinoGroupLeagues = before.catalog.casinoGroupLeagues

theorem SameOffering.grows {before after : Database} (same : SameOffering before after) :
    Grows (fun _ => False) before after :=
  Grows.of_same same.1 same.2.1 fun _ has => same.2.2 ▸ has

theorem read_extends {α : Type} (view : Database → α) : (read view).CallsOnly Extends :=
  (Program.callsOnly_call _).mpr fun db => Grows.refl db

theorem write_extends {change : Database → Database}
    (same : ∀ db, SameOffering db (change db)) : (write change).CallsOnly Extends :=
  (Program.callsOnly_call _).mpr fun db => (same db).grows

theorem attempt_extends {change : Database → Except Failure Database}
    (same : ∀ db after, change db = .ok after → SameOffering db after) :
    (attempt change).CallsOnly Extends := by
  refine (Program.callsOnly_call _).mpr fun db => ?_
  unfold Query.attempt
  cases changed : change db with
  | error failure => exact Grows.refl db
  | ok after => exact (same db after changed).grows

theorem transaction_extends {α : Type} {change : Database → Except Failure (α × Database)}
    (same : ∀ db value after, change db = .ok (value, after) → SameOffering db after) :
    (transaction change).CallsOnly Extends := by
  refine (Program.callsOnly_call _).mpr fun db => ?_
  unfold Query.transaction
  cases changed : change db with
  | error failure => exact Grows.refl db
  | ok result => exact (same db result.1 result.2 changed).grows

theorem recordAudit_extends (entry : AuditEntry) : (recordAudit entry).CallsOnly Extends :=
  Program.CallsOnly.handle (write_extends fun _ => ⟨rfl, rfl, rfl⟩) fun _ => trivial

theorem upsertGroupLeague_grows (db : Database) (casinoGroupId league : String) (enabled : Bool) :
    Grows (fun _ => False) db (Ingestion.upsertGroupLeague db casinoGroupId league enabled) :=
  Grows.of_same rfl rfl fun _ has => has.put _

theorem upsertOffering_grows (db : Database) (casinoGroupId league : String)
    (enabled locked operatorOnly : Bool) :
    Grows (fun _ => False) db (upsertOffering db casinoGroupId league enabled locked operatorOnly) :=
  Grows.of_same rfl rfl fun _ has => has.put _

theorem updateLeagues_extends (configured : List String) (casinoGroupId : String)
    (leagues : List LeagueOfferingDto) (staff : StaffContext) :
    (updateLeagues configured casinoGroupId leagues staff).CallsOnly Extends := by
  have group : (assertCasinoGroup casinoGroupId).CallsOnly Extends := by
    refine (read_extends _).bind fun group => ?_
    cases group with
    | none => trivial
    | some group => trivial
  have keys : (allowedCatalogLeagueKeys configured).CallsOnly Extends :=
    (read_extends _).bind fun _ => trivial
  have persist : ∀ input, (persistOffering input).CallsOnly Extends := by
    intro input
    refine Program.CallsOnly.bind ((Program.callsOnly_call _).mpr fun db =>
      upsertOffering_grows db _ _ _ _ _) fun _ => ?_
    split
    · exact recordAudit_extends _
    · trivial
  refine group.bind fun _ => keys.bind fun allowedKeys => ?_
  refine (Program.CallsOnly.forM (fun item => ?_) leagues).bind fun _ => ?_
  · -- one league of the request
    refine (read_extends _).bind fun league => ?_
    rcases league with _ | ⟨league, sportActive⟩
    · trivial
    dsimp only
    split
    · trivial
    refine (read_extends _).bind fun existing => ?_
    split
    · split
      · trivial
      · split
        · trivial
        · exact persist _
    · split
      · trivial
      · exact persist _
  · refine group.bind fun _ => keys.bind fun allowedKeys => ?_
    split
    · trivial
    · exact read_extends _

theorem syncTenantLeagues_extends (slug : String) (offeredLeagueKeys : List String) :
    (Ingestion.syncTenantLeagues slug offeredLeagueKeys).CallsOnly Extends := by
  refine (read_extends _).bind fun group => ?_
  cases group with
  | none => trivial
  | some group =>
      refine (read_extends _).bind fun leagues => Program.CallsOnly.forM (fun league => ?_) leagues
      refine (read_extends _).bind fun existing => ?_
      refine Program.CallsOnly.bind ((Program.callsOnly_call _).mpr fun db =>
        upsertGroupLeague_grows db _ _ _) fun _ => ?_
      split
      · trivial
      · exact recordAudit_extends _

end Calls

section Ingest

open Ingestion

theorem deleteStaleFixtures_extends (stale : Fixture → Bool) :
    (deleteStaleFixtures stale).CallsOnly Extends := by
  have history : (deleteFixturesAndBetHistory stale).CallsOnly Extends := by
    refine (read_extends _).bind fun _ => (read_extends _).bind fun fixtures => ?_
    split
    · trivial
    refine (read_extends _).bind fun selectionIds => ?_
    have bets : (findBetIds selectionIds).CallsOnly Extends := by
      unfold findBetIds
      split
      · trivial
      · exact read_extends _
    refine bets.bind fun betIds => ?_
    unfold deleteFixturesWithBets
    split
    · refine (transaction_extends fun db count after done => ?_).bind fun _ => trivial
      rw [(deleteFixtures_ok (removeFixtures_ok done)).2]
      exact ⟨rfl, rfl, rfl⟩
    · refine (transaction_extends fun db count after done => ?_).bind fun _ => trivial
      rw [(deleteFixtures_ok (deleteBetsAndFixtures_ok done)).2]
      exact ⟨rfl, rfl, rfl⟩
  exact history.bind fun _ => trivial

theorem upsertFixturesFromSnapshot_extends (runtime : Text.Runtime) (isOddsApi : Bool)
    (snapshot : ProviderSnapshot) (purgeStale : Bool) :
    (upsertFixturesFromSnapshot runtime isOddsApi snapshot purgeStale).CallsOnly Extends := by
  refine (read_extends _).bind fun leagueKeys => (read_extends _).bind fun teamKeys => ?_
  refine (Program.CallsOnly.foldlM (fun count fixture => ?_) snapshot.fixtures 0).bind
    fun fixtureCount => ?_
  · split
    · refine (attempt_extends fun db after done => ?_).bind fun _ => trivial
      unfold upsertFixture at done
      split at done
      · cases done
      · rw [← Except.ok.inj done]
        exact ⟨rfl, rfl, rfl⟩
    · trivial
  · split
    · trivial
    dsimp only
    split
    · trivial
    · exact (deleteStaleFixtures_extends _).bind fun _ => trivial

theorem ingestLiveData_extends (snapshot : ProviderSnapshot) :
    (ingestLiveData snapshot).CallsOnly Extends := by
  refine (read_extends _).bind fun fixtureRefs => ?_
  refine (Program.CallsOnly.foldlM (fun count event => ?_) snapshot.events 0).bind fun events => ?_
  · unfold ingestEvent
    split
    · refine (attempt_extends fun db after done => ?_).bind fun _ => ?_
      · rw [upsertEvent_ok done]
        exact ⟨rfl, rfl, rfl⟩
      refine (read_extends _).bind fun _ => ?_
      have close : (closeIfEnded event).CallsOnly Extends := by
        unfold closeIfEnded closeMarketsForEndedEvent
        split
        · refine Program.CallsOnly.bind (write_extends fun _ => ?_) fun _ => write_extends fun _ => ?_
          · exact ⟨rfl, rfl, rfl⟩
          · exact ⟨rfl, rfl, rfl⟩
        · trivial
      exact close.bind fun _ => trivial
    · trivial
  refine (read_extends _).bind fun eventRefs => ?_
  refine (Program.CallsOnly.foldlM (fun count market => ?_) snapshot.markets 0).bind
    fun markets => ?_
  · unfold ingestMarket
    split
    · refine (attempt_extends fun db after done => ?_).bind fun _ => trivial
      obtain ⟨line, _, rfl⟩ := upsertMarket_ok done
      exact ⟨rfl, rfl, rfl⟩
    · trivial
  refine (read_extends _).bind fun marketRefs => (read_extends _).bind fun prices => ?_
  refine (Program.CallsOnly.foldlM (fun counts selection => ?_) snapshot.selections (0, 0)).bind
    fun _ => trivial
  unfold ingestSelection
  split
  · split
    · trivial
    · refine (attempt_extends fun db after done => ?_).bind fun _ => ?_
      · obtain ⟨price, rfl⟩ := upsertSelection_ok done
        exact ⟨rfl, rfl, rfl⟩
      split
      · trivial
      · refine (attempt_extends fun db after done => ?_).bind fun _ => ?_
        · obtain ⟨odds, rfl⟩ := createOddsSnapshot_ok done
          exact ⟨rfl, rfl, rfl⟩
        · exact (read_extends _).bind fun _ => trivial
  · trivial

/-- The snapshot adds a league of the key, of a sport that the run knows. -/
def Adds (db : Database) (snapshot : ProviderSnapshot) (key : String) : Prop :=
  ¬ db.catalog.leagues.Has key ∧ ∃ league ∈ snapshot.leagues, league.key = key ∧
    (db.catalog.sports.Has league.sportKey ∨
      ∃ sport ∈ snapshot.sports, sport.key = league.sportKey)

theorem upsertCatalog_grows (snapshot : ProviderSnapshot) (db : Database) :
    Keeps (Grows (Adds db snapshot) db) (fun _ _ => True) (upsertCatalogFromSnapshot snapshot)
      db := by
  unfold upsertCatalogFromSnapshot
  have knows : ∀ key, db.catalog.sports.Has key →
      db.catalog.sports.Has key ∨ ∃ sport ∈ snapshot.sports, sport.key = key := fun _ => .inl
  refine Upholds.bind (Upholds.forM (fun rest after => rest ⊆ snapshot.sports ∧
    ∀ key, after.catalog.sports.Has key →
      db.catalog.sports.Has key ∨ ∃ sport ∈ snapshot.sports, sport.key = key) ?_
    (Grows.refl db) ⟨List.Subset.refl _, knows⟩) fun _ _ grown knows => ?_
  · intro sport rest before grown held
    obtain ⟨here, later⟩ := List.cons_subset.mp held.1
    have spares : ∀ after, upsertSport before sport = .ok after → SameOffering before after ∧
        ∀ key, after.catalog.sports.Has key → before.catalog.sports.Has key ∨ sport.key = key := by
      intro after done
      unfold upsertSport at done
      split at done
      · cases done
      · rw [← Except.ok.inj done]
        refine ⟨⟨rfl, rfl, rfl⟩, fun key has => ?_⟩
        obtain ⟨row, stored, same⟩ := has
        rcases Table.mem_put.mp stored with rfl | ⟨old, _⟩
        · exact .inr same
        · exact .inl ⟨row, old, same⟩
    refine (Upholds.attempt grown fun after done => grown.trans (spares after done).1.grows).mono ?_
    intro _ after done
    refine ⟨later, fun key has => ?_⟩
    rcases (spares after done).2 key has with old | new
    · exact held.2 key old
    · exact .inr ⟨sport, here, new⟩
  refine Upholds.bind (Upholds.read grown) fun sportKeys _ grown held => ?_
  obtain ⟨rfl, rfl⟩ := held
  refine Upholds.bind (Upholds.forM (fun rest _ => rest ⊆ snapshot.leagues) ?_ grown
    (List.Subset.refl _)) fun _ _ grown _ => ?_
  · intro league rest before grown listed
    obtain ⟨here, later⟩ := List.cons_subset.mp listed
    split
    · next known =>
        have sport := knows.2 league.sportKey (List.mem_map.mp known)
        refine (Upholds.write grown (grown.upsertLeague fun fresh =>
          ⟨fresh, league, here, rfl, sport⟩)).mono fun _ _ _ => later
    · exact Upholds.pure grown later
  refine (Upholds.forM (fun _ _ => True) ?_ grown trivial).mono fun _ _ _ => trivial
  intro team _ before grown _
  split
  · exact (Upholds.write grown (grown.trans (Grows.of_same rfl rfl fun _ => id))).mono
      fun _ _ _ => trivial
  · exact Upholds.pure grown trivial

/-- The tenant has a row for every league. -/
def Covers (casinoGroupId : String) (db : Database) : Prop :=
  ∀ league ∈ db.catalog.leagues, db.catalog.casinoGroupLeagues.Has (casinoGroupId, league.key)

theorem Covers.grows {casinoGroupId : String} {before after : Database}
    (covers : Covers casinoGroupId before) (grows : Grows (fun _ => False) before after) :
    Covers casinoGroupId after := by
  intro league stored
  obtain ⟨old, known, same, _⟩ := (grows.leagues league stored).resolve_right id
  exact grows.rows _ (same ▸ covers old known)

def findBySlug (slug : String) (db : Database) : Option CasinoGroup :=
  db.catalog.casinoGroups.rows.find? fun group => group.slug = slug

theorem syncTenantLeagues_covers (slug : String) (offered : List String) {db : Database}
    {group : CasinoGroup} (found : findBySlug slug db = some group) :
    Keeps (Grows (fun _ => False) db) (fun _ after => Covers group.id after)
      (syncTenantLeagues slug offered) db := by
  unfold syncTenantLeagues
  refine Upholds.bind (Upholds.read (Grows.refl db)) fun stored after grown held => ?_
  obtain ⟨same, looked⟩ := held
  subst after
  rw [looked, ← findBySlug, found]
  refine Upholds.bind (Upholds.read grown) fun keys after grown held => ?_
  obtain ⟨same, listed⟩ := held
  subst after
  refine (Upholds.forM (fun rest after => after.catalog.leagues = db.catalog.leagues ∧
    ∀ key ∈ keys, key ∈ rest ∨ after.catalog.casinoGroupLeagues.Has (group.id, key)) ?_ grown
    ⟨rfl, fun key member => .inl member⟩).mono ?_
  · intro key rest before grown held
    refine Upholds.bind (Upholds.read grown) fun existing after grown same => ?_
    obtain ⟨same, _⟩ := same
    subst after
    have upserted := upsertGroupLeague_grows before group.id key (isLeagueOffered key offered)
    refine Upholds.bind (Upholds.write grown (grown.trans upserted)) fun _ written grown same => ?_
    have covered : written.catalog.leagues = db.catalog.leagues ∧ ∀ other ∈ keys,
        other ∈ rest ∨ written.catalog.casinoGroupLeagues.Has (group.id, other) := by
      rw [same]
      refine ⟨held.1, fun other member => ?_⟩
      rcases held.2 other member with waiting | has
      · rcases List.mem_cons.mp waiting with here | later
        · rw [here]
          exact .inr (Table.has_put_self _ _)
        · exact .inl later
      · exact .inr (has.put _)
    split
    · exact Upholds.pure grown covered
    · have audited : Keeps (SameOffering written) (fun _ _ => True) (recordAudit
          (offeringEntry slug group.id key existing (isLeagueOffered key offered))) written :=
        keeps_recordAudit (fun _ _ => id) _ ⟨rfl, rfl, rfl⟩
      refine (Upholds.weaken (fun after same => grown.trans same.grows) ⟨rfl, rfl, rfl⟩
        audited).mono fun _ after kept => ?_
      obtain ⟨_, leagues, rows⟩ := kept.1
      rw [leagues, rows]
      exact covered
  · intro _ after held league stored
    rw [held.1] at stored
    have member : league.key ∈ keys := listed ▸ List.mem_map_of_mem stored
    exact (held.2 league.key member).resolve_left (by simp)

/-- The part of a catalog run that writes leagues and their rows. -/
def syncCatalog (snapshot : ProviderSnapshot) : Service Unit := do
  upsertCatalogFromSnapshot snapshot
  syncTenantLeagues "acme" ACME_LEAGUE_PREFIXES
  syncTenantLeagues "betzone" BETZONE_LEAGUE_PREFIXES

def ingestGames (runtime : Text.Runtime) (isOddsApi : Bool) (snapshot : ProviderSnapshot) :
    Service IngestionSummary := do
  let fixtureCount ← upsertFixturesFromSnapshot runtime isOddsApi snapshot true
  let live ← ingestLiveData snapshot
  pure (buildSummary snapshot fixtureCount live)

theorem ingestFixtures_eq (runtime : Text.Runtime) (isOddsApi : Bool)
    (snapshot : ProviderSnapshot) : ingestFixtures runtime isOddsApi (.ok snapshot) =
      syncCatalog snapshot >>= fun _ => ingestGames runtime isOddsApi snapshot := by
  simp only [ingestFixtures, syncCatalog, ingestGames, bind_assoc]

theorem ingestGames_extends (runtime : Text.Runtime) (isOddsApi : Bool)
    (snapshot : ProviderSnapshot) :
    (ingestGames runtime isOddsApi snapshot).CallsOnly Extends :=
  (upsertFixturesFromSnapshot_extends runtime isOddsApi snapshot true).bind fun _ =>
    (ingestLiveData_extends snapshot).bind fun _ => trivial

/-- Calls that only extend the offering keep growth from an earlier state. -/
theorem keeps_grows {α : Type} {program : Service α} (only : program.CallsOnly Extends)
    {added : String → Prop} {before db : Database} (grown : Grows added before db) :
    Keeps (Grows added before) (fun _ _ => True) program db :=
  Upholds.of_callsOnly (fun _ after more held => held.trans (more after)) only grown

theorem syncCatalog_grows (snapshot : ProviderSnapshot) (db : Database) :
    Keeps (Grows (Adds db snapshot) db) (fun _ _ => True) (syncCatalog snapshot) db := by
  refine Upholds.bind (upsertCatalog_grows snapshot db) fun _ after grown _ => ?_
  exact keeps_grows ((syncTenantLeagues_extends _ _).bind fun _ => syncTenantLeagues_extends _ _)
    grown

theorem ingestFixtures_grows (runtime : Text.Runtime) (isOddsApi : Bool)
    (snapshot : ProviderSnapshot) (db : Database) :
    Keeps (Grows (Adds db snapshot) db) (fun _ _ => True)
      (ingestFixtures runtime isOddsApi (.ok snapshot)) db := by
  rw [ingestFixtures_eq]
  exact Upholds.bind (syncCatalog_grows snapshot db) fun _ after grown _ =>
    keeps_grows (ingestGames_extends runtime isOddsApi snapshot) grown

/-- Where the part has returned, both tenants that it syncs have all their rows. -/
theorem syncCatalog_covers (snapshot : ProviderSnapshot) (db : Database) {group : CasinoGroup}
    (synced : findBySlug "acme" db = some group ∨ findBySlug "betzone" db = some group) :
    Keeps (Grows (Adds db snapshot) db) (fun _ after => Covers group.id after)
      (syncCatalog snapshot) db := by
  have covers : ∀ slug offered middle, Grows (Adds db snapshot) db middle →
      findBySlug slug db = some group →
      Keeps (Grows (Adds db snapshot) db) (fun _ after => Covers group.id after)
        (syncTenantLeagues slug offered) middle := by
    intro slug offered middle grown found
    have still : findBySlug slug middle = some group := by rwa [findBySlug, grown.groups]
    exact (Upholds.weaken (fun after (more : Grows (fun _ => False) middle after) =>
      grown.trans more) (Grows.refl middle)
      (syncTenantLeagues_covers slug offered still)).mono fun _ _ held => held.2
  refine Upholds.bind (upsertCatalog_grows snapshot db) fun _ middle grown _ => ?_
  rcases synced with acme | betzone
  · refine Upholds.bind (covers _ _ middle grown acme) fun _ after grown covered => ?_
    -- the second sync takes nothing away
    have both : Keeps (fun after => Grows (Adds db snapshot) db after ∧ Covers group.id after)
        (fun _ _ => True) (syncTenantLeagues "betzone" BETZONE_LEAGUE_PREFIXES) after := by
      refine Upholds.of_callsOnly ?_ (syncTenantLeagues_extends _ _) ⟨grown, covered⟩
      intro Reply query store more held
      exact ⟨held.1.trans (more store), held.2.grows (more store)⟩
    exact (Upholds.weaken (fun _ held => held.1) ⟨grown, covered⟩ both).mono fun _ _ held => held.1.2
  · exact Upholds.bind (keeps_grows (syncTenantLeagues_extends _ _) grown) fun _ after grown _ =>
      covers _ _ after grown betzone

/-- The run syncs the tenant, and does not stop before it has. -/
def Synced (snapshot : ProviderSnapshot) (moves : List (Move databaseMachine)) (db : Database)
    (group : CasinoGroup) : Prop :=
  (findBySlug "acme" db = some group ∨ findBySlug "betzone" db = some group) ∧
    (Session.mk (syncCatalog snapshot).void moves).Returned db

/-- A catalog run leaves every tenant complete that it syncs, or for which it adds no
league in scope. -/
theorem ingestFixtures_complete {configured : List String} {runtime : Text.Runtime}
    {isOddsApi : Bool} {snapshot : ProviderSnapshot} {moves : List (Move databaseMachine)}
    {db : Database} (complete : Complete configured db)
    (covered : ∀ group ∈ db.catalog.casinoGroups, Synced snapshot moves db group ∨
      ∀ key, Adds db snapshot key →
        key ∉ resolveCatalogLeagueKeys configured (activeKeys db ++ [key])) :
    Complete configured ((Session.mk (ingestFixtures runtime isOddsApi (.ok snapshot)).void
      moves).result db) := by
  have grown : Grows (Adds db snapshot) db ((Session.mk (ingestFixtures runtime isOddsApi
      (.ok snapshot)).void moves).result db) :=
    (Upholds.result (Grows.refl db)
      (Upholds.void (ingestFixtures_grows runtime isOddsApi snapshot db))).1
  intro group member
  rw [grown.groups] at member
  refine (complete group member).grows grown ?_
  rcases covered group member with synced | outside
  · left
    obtain ⟨earlier, later, value, split, returned, came⟩ := Session.run_bind
      (fun _ => (ingestGames runtime isOddsApi snapshot).void) synced.2
    have middle : Covers group.id ((Session.mk (syncCatalog snapshot).void earlier).result db) :=
      (Upholds.result (Grows.refl db)
        (Upholds.void (syncCatalog_covers snapshot db synced.1))).2 returned
    have last : Covers group.id ((Session.mk (ingestGames runtime isOddsApi snapshot).void
        later).result ((Session.mk (syncCatalog snapshot).void earlier).result db)) := by
      refine (Upholds.result middle (Upholds.void (Upholds.of_callsOnly ?_
        (ingestGames_extends runtime isOddsApi snapshot) middle))).1
      exact fun _ store more held => held.grows (more store)
    have same : (Session.mk (ingestFixtures runtime isOddsApi (.ok snapshot)).void
        moves).result db = (Session.mk (ingestGames runtime isOddsApi snapshot).void later).result
          ((Session.mk (syncCatalog snapshot).void earlier).result db) := by
      simp only [Session.result] at came ⊢
      rw [ingestFixtures_eq, Program.void, bind_assoc, split, Config.run_append, ← Program.void,
        came]
    rw [same]
    exact last
  · exact .inr outside

end Ingest

end SportsBetting.Product
