import SportsBetting.Backoffice.Product
import SportsBetting.Backoffice.Tenants
import SportsBetting.Bets.Actors

/-!
# What players see and what they can bet on

Fixtures are listed if their league is active and enabled for the tenant. A bet
only needs the league to be enabled.
-/

namespace SportsBetting

open BetValidation Ingestion Trading

structure PaginationQuery where
  page : ℕ
  pageSize : ℕ

def PaginationQuery.skip (query : PaginationQuery) : ℕ := (query.page - 1) * query.pageSize

structure Paginated (α : Type) where
  data : List α
  page : ℕ
  pageSize : ℕ
  total : ℕ

namespace FixturesService

structure ListFixturesQuery extends PaginationQuery where
  fromDate : Option Time
  toDate : Option Time
  leagueId : Option String
  status : Option FixtureStatus

structure FixtureTeam where
  id : String
  name : String
  shortName : Option String

structure FixtureResponse where
  id : String
  leagueId : String
  startsAt : Time
  status : FixtureStatus
  homeTeam : FixtureTeam
  awayTeam : FixtureTeam

variable (db : Database) (casinoGroupId : String)

def isListed (query : ListFixturesQuery) (fixture : Fixture) : Bool :=
  (match db.catalog.leagues.get? fixture.league with
    | some league =>
        league.active && leagueEnabled db casinoGroupId league.key &&
          query.leagueId.all fun leagueId => league.key = leagueId
    | none => false) &&
  (query.status.all fun status => fixture.status = status) &&
  (query.fromDate.all fun earliest => earliest ≤ fixture.startsAt) &&
  query.toDate.all fun latest => fixture.startsAt ≤ latest

def teamResponse (team : Team) : FixtureTeam := ⟨team.key, team.name, team.shortName⟩

def fixtureResponse (fixture : Fixture) : Option FixtureResponse := do
  let homeTeam ← db.catalog.teams.get? fixture.homeTeam
  let awayTeam ← db.catalog.teams.get? fixture.awayTeam
  return ⟨fixture.providerRef, fixture.league, fixture.startsAt, fixture.status,
    teamResponse homeTeam, teamResponse awayTeam⟩

/-- Fixtures restricted to leagues the tenant has enabled. Those that start at
the same time come in any order. -/
def listForGroup (rank : String → ℕ) (query : ListFixturesQuery) : Paginated FixtureResponse :=
  let rows := db.catalog.fixtures.rows.filter (isListed db casinoGroupId query)
  let ordered := rows.insertionSort fun first second => first.startsAt < second.startsAt ∨
    (first.startsAt = second.startsAt ∧ rank first.providerRef ≤ rank second.providerRef)
  { data := ((ordered.drop query.skip).take query.pageSize).filterMap (fixtureResponse db)
    page := query.page
    pageSize := query.pageSize
    total := rows.length }

/-- The tenant's players find the fixture on one of the pages. -/
def Lists (fixtureRef : String) : Prop :=
  ∀ rank pageSize, 0 < pageSize → ∃ page, ∃ fixture ∈
    (listForGroup db casinoGroupId rank ⟨⟨page, pageSize⟩, none, none, none, none⟩).data,
    fixture.id = fixtureRef

end FixturesService

namespace LeaguesService

structure LeagueResponse where
  id : String
  key : String
  name : String
  region : Option String
  sportId : String

/-- Leagues enabled for this tenant, optionally filtered by sport. -/
def listForGroup (db : Database) (casinoGroupId : String) (sportId : Option String) :
    List LeagueResponse :=
  ((db.catalog.leagues.rows.filter fun league =>
      league.active && leagueEnabled db casinoGroupId league.key &&
        sportId.all fun sportId => league.sport = sportId).insertionSort fun first second =>
          first.name ≤ second.name).map fun league =>
    ⟨league.key, league.key, league.name, league.region, league.sport⟩

end LeaguesService

/-- The league and its sport are active in the platform catalog. -/
def catalogActive (db : Database) (league : String) : Bool :=
  match Product.findLeague db league with
  | some (league, sportActive) => league.active && sportActive
  | none => false

section Pages

/-- Every item of a list is on one of its pages. -/
theorem exists_mem_page {α : Type} {items : List α} {size : ℕ} (positive : 0 < size) {item : α}
    (member : item ∈ items) : ∃ page, item ∈ (items.drop ((page - 1) * size)).take size := by
  obtain ⟨index, bound, rfl⟩ := List.mem_iff_getElem.mp member
  refine ⟨index / size + 1, List.mem_iff_getElem.mpr ⟨index % size, ?_, ?_⟩⟩
  · have split := Nat.div_add_mod' index size
    have below := Nat.mod_lt index positive
    simp only [Nat.add_sub_cancel, List.length_take, List.length_drop]
    omega
  · simp [Nat.div_add_mod']

variable {db : Database} {casinoGroupId : String} {fixture : Fixture} {league : League}

theorem lists_iff (stored : fixture ∈ db.catalog.fixtures)
    (of : db.catalog.leagues.get? fixture.league = some league)
    (homeTeam : db.catalog.teams.Has fixture.homeTeam)
    (awayTeam : db.catalog.teams.Has fixture.awayTeam) :
    FixturesService.Lists db casinoGroupId fixture.providerRef ↔
      league.active = true ∧ leagueEnabled db casinoGroupId league.key = true := by
  have listed : ∀ query : FixturesService.ListFixturesQuery,
      query.fromDate = none → query.toDate = none → query.leagueId = none → query.status = none →
      (FixturesService.isListed db casinoGroupId query fixture = true ↔
        league.active = true ∧ leagueEnabled db casinoGroupId league.key = true) := by
    intro query early late any status
    simp [FixturesService.isListed, of, early, late, any, status]
  constructor
  · intro lists
    obtain ⟨page, response, shown, same⟩ := lists (fun _ => 0) 1 Nat.one_pos
    obtain ⟨other, member, made⟩ := List.mem_filterMap.mp shown
    have kept := List.mem_of_mem_drop (List.mem_of_mem_take member)
    rw [List.mem_insertionSort, List.mem_filter] at kept
    have own : other = fixture := by
      simp only [FixturesService.fixtureResponse, Option.bind_eq_bind,
        Option.bind_eq_some_iff] at made
      obtain ⟨_, _, _, _, made⟩ := made
      rw [← Option.some.inj made] at same
      exact Table.eq_of_key (Table.mem_rows.mp kept.1) stored same
    rw [own] at kept
    exact (listed _ rfl rfl rfl rfl).mp kept.2
  · intro shown rank pageSize positive
    obtain ⟨home, homeStored, homeKey⟩ := homeTeam
    obtain ⟨away, awayStored, awayKey⟩ := awayTeam
    let query : FixturesService.ListFixturesQuery := ⟨⟨1, pageSize⟩, none, none, none, none⟩
    have among : fixture ∈ (db.catalog.fixtures.rows.filter
        (FixturesService.isListed db casinoGroupId query)).insertionSort fun first second =>
          first.startsAt < second.startsAt ∨
            (first.startsAt = second.startsAt ∧ rank first.providerRef ≤ rank second.providerRef) := by
      rw [List.mem_insertionSort, List.mem_filter]
      exact ⟨Table.mem_rows.mpr stored, (listed query rfl rfl rfl rfl).mpr shown⟩
    obtain ⟨page, member⟩ := exists_mem_page positive among
    refine ⟨page, ⟨fixture.providerRef, fixture.league, fixture.startsAt, fixture.status,
      FixturesService.teamResponse home, FixturesService.teamResponse away⟩, ?_, rfl⟩
    refine List.mem_filterMap.mpr ⟨fixture, member, ?_⟩
    simp [FixturesService.fixtureResponse, ← homeKey, ← awayKey, Table.get?_of_mem homeStored,
      Table.get?_of_mem awayStored]

end Pages

section Accepted

variable {db : Database} {casinoGroupId : String}

/-- The selection is one of the fixture. -/
def IsOf (db : Database) (selection : Selection) (fixture : Fixture) : Prop :=
  fixture ∈ db.catalog.fixtures ∧
    fixtureOfSelection db selection.providerRef = some fixture.providerRef

theorem joinSelection_game {selection : Selection} {row : SelectionRow}
    (stored : selection ∈ db.catalog.selections)
    (joined : joinSelection db casinoGroupId selection = some row) :
    ∃ fixture, IsOf db selection fixture ∧
      db.catalog.leagues.get? fixture.league = some row.league ∧
      db.catalog.sports.get? row.league.sport = some row.sport ∧
      db.catalog.teams.Has fixture.homeTeam ∧ db.catalog.teams.Has fixture.awayTeam ∧
      row.offered = leagueEnabled db casinoGroupId row.league.key := by
  unfold joinSelection at joined
  simp only [Option.bind_eq_bind, Option.bind_eq_some_iff] at joined
  obtain ⟨market, market?, event, event?, fixture, fixture?, home, home?, away, away?, league,
    league?, sport, sport?, same⟩ := joined
  obtain rfl := Option.some.inj same
  obtain ⟨present, of⟩ := Table.get?_eq_some_iff.mp fixture?
  refine ⟨fixture, ⟨present, ?_⟩, league?, sport?, ⟨home, Table.get?_eq_some_iff.mp home?⟩,
    ⟨away, Table.get?_eq_some_iff.mp away?⟩, rfl⟩
  simp [fixtureOfSelection, Table.get?_of_mem stored, market?, event?, of]

theorem IsOf.unique {selection : Selection} {first second : Fixture}
    (one : IsOf db selection first) (other : IsOf db selection second) : first = second :=
  Table.eq_of_key one.1 other.1 (Option.some.inj (one.2.symm.trans other.2))

theorem catalogActive_of_join {fixture : Fixture} {league : League} {sport : Sport}
    (league? : db.catalog.leagues.get? fixture.league = some league)
    (sport? : db.catalog.sports.get? league.sport = some sport) :
    catalogActive db fixture.league = (league.active && sport.active) := by
  simp [catalogActive, Product.findLeague, league?, sport?]

/-- Every row of an accepted request is on offer. -/
theorem onOffer_of_requested {config : EnvConfig} {selectionIds : List String} {stakeRaw : String}
    (accepts : Accepts config db casinoGroupId selectionIds stakeRaw) {selection : Selection}
    (stored : selection ∈ db.catalog.selections) (requested : selection.providerRef ∈ selectionIds) :
    ∃ row, joinSelection db casinoGroupId selection = some row ∧ onOffer row = true := by
  obtain ⟨rows, quote, found, accepted⟩ := accepts
  obtain ⟨_, all, legs⟩ := validatePlacement_ok accepted
  obtain ⟨row, listed, joined⟩ := findSelections_complete (found.length_eq ▸ all) stored requested
  obtain ⟨leg, passed⟩ := (Except.mapM_eq_ok legs).1 row (found.mem_iff.mpr listed)
  exact ⟨row, joined, (validateLeg_eq_ok.mp passed).1⟩

/-- Bets are taken on a league only while it is active and listed exactly if the catalog has
it active, or none of its selections is on offer to the tenant at all. -/
theorem accepted_is_listed_iff (db : Database) (casinoGroupId league : String) :
    (∀ config selectionIds stakeRaw, Accepts config db casinoGroupId selectionIds stakeRaw →
      ∀ selection ∈ db.catalog.selections, selection.providerRef ∈ selectionIds →
        ∀ fixture, IsOf db selection fixture → fixture.league = league →
          catalogActive db league = true ∧ leagueEnabled db casinoGroupId league = true ∧
            FixturesService.Lists db casinoGroupId fixture.providerRef) ↔
    catalogActive db league = true ∨
      ∀ selection ∈ db.catalog.selections, ∀ fixture, IsOf db selection fixture →
        fixture.league = league → ∀ row, joinSelection db casinoGroupId selection = some row →
          onOffer row = false := by
  constructor
  · intro listed
    by_contra neither
    rw [not_or, not_forall] at neither
    obtain ⟨inactive, selection, offered⟩ := neither
    simp only [not_forall, Bool.not_eq_false] at offered
    obtain ⟨stored, fixture, isOf, of, row, joined, offer⟩ := offered
    exact inactive (listed _ _ _ (accepts_single stored joined offer) selection stored (by simp)
      fixture isOf of).1
  · intro holds config selectionIds stakeRaw accepts selection stored requested fixture isOf of
    obtain ⟨row, joined, offer⟩ := onOffer_of_requested accepts stored requested
    obtain ⟨other, isOther, league?, sport?, home, away, offered⟩ := joinSelection_game stored joined
    obtain rfl := isOf.unique isOther
    have active : catalogActive db league = true := by
      refine holds.resolve_right fun closed => ?_
      rw [closed selection stored fixture isOf of row joined] at offer
      cases offer
    have enabled : leagueEnabled db casinoGroupId row.league.key = true := by
      simp only [onOffer, Bool.and_eq_true] at offer
      rw [← offered]
      exact offer.1.1.1
    have key : row.league.key = league :=
      (Table.get?_eq_some_iff.mp league?).2.trans of
    have both := active
    rw [← of, catalogActive_of_join league? sport?, Bool.and_eq_true] at both
    exact ⟨active, key ▸ enabled, (lists_iff isOf.1 league? home away).mpr ⟨both.1, enabled⟩⟩

end Accepted

section Sample

/-- The league was taken out of the catalog, and the tenant has it enabled. -/
def retiredLeague : Database where
  catalog := { Sample.catalog .live .open with
    leagues := ⟨[⟨"league", "soccer", "League", none, false⟩], by simp⟩ }
  ledger := .empty
  audit := []

theorem retired_league_accepted :
    catalogActive retiredLeague "league" = false ∧
    leagueEnabled retiredLeague "group" "league" = true ∧
    Accepts limits retiredLeague "group" ["winner:ants"] "10" ∧
    ¬ FixturesService.Lists retiredLeague "group" "match" := by
  have quoted : (validatePlacement limits ["winner:ants"] "10"
      (findSelections retiredLeague "group" ["winner:ants"])).toBool = true := by decide +kernel
  refine ⟨by decide +kernel, by decide +kernel, ?_, ?_⟩
  · cases accepted : validatePlacement limits ["winner:ants"] "10"
        (findSelections retiredLeague "group" ["winner:ants"]) with
    | error failure => simp [accepted, Except.toBool] at quoted
    | ok quote => exact ⟨_, quote, List.Perm.refl _, accepted⟩
  · intro lists
    have stored : (⟨"match", "league", "ants", "bees", 0, .live⟩ : Fixture) ∈
        retiredLeague.catalog.fixtures := Table.mem_rows.mp (by decide)
    have of : retiredLeague.catalog.leagues.get? "league" =
        some ⟨"league", "soccer", "League", none, false⟩ := by decide +kernel
    have home : retiredLeague.catalog.teams.Has "ants" :=
      ⟨⟨"ants", "soccer", "Ants", none⟩, Table.mem_rows.mp (by decide), rfl⟩
    have away : retiredLeague.catalog.teams.Has "bees" :=
      ⟨⟨"bees", "soccer", "Bees", none⟩, Table.mem_rows.mp (by decide), rfl⟩
    have listed := (lists_iff stored of home away).mp lists
    cases listed.1

end Sample

end SportsBetting
