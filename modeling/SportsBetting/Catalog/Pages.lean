import SportsBetting.Catalog.Offered
import SportsBetting.Data.Paging

/-!
# Fixtures page by page

Each page is a query of its own, and fixtures that start at the same time come in
any order in each. Fixtures are lost and repeated where such fixtures are on both
sides of a page boundary.
-/

namespace SportsBetting.FixturesService

open Paging

section Definitions

variable (db : Database) (casinoGroupId : String) (query : ListFixturesQuery)

/-- The fixtures that match the filters, whatever the page. -/
def matching : List Fixture := db.catalog.fixtures.rows.filter (isListed db casinoGroupId query)

/-- The matching fixtures as one query orders them. -/
def ordering (rank : String → ℕ) : List Fixture :=
  (matching db casinoGroupId query).insertionSort fun first second =>
    first.startsAt < second.startsAt ∨
      (first.startsAt = second.startsAt ∧ rank first.providerRef ≤ rank second.providerRef)

/-- One page, where the database ranks fixtures that start at the same time like this. -/
def pageOf (rank : String → ℕ) (index : ℕ) : Paginated FixtureResponse :=
  listForGroup db casinoGroupId rank { query with page := index + 1 }

/-- The fixtures on the first pages. -/
def browsed (ranks : ℕ → String → ℕ) (count : ℕ) : List FixtureResponse :=
  (List.range count).flatMap fun index => (pageOf db casinoGroupId query (ranks index) index).data

end Definitions

variable {db : Database} {casinoGroupId : String} {query : ListFixturesQuery}

theorem pageOf_data (rank : String → ℕ) (index : ℕ) :
    (pageOf db casinoGroupId query rank index).data =
      (page query.pageSize index (ordering db casinoGroupId query rank)).filterMap
        (fixtureResponse db) := rfl

theorem pageOf_total (rank : String → ℕ) (index : ℕ) :
    (pageOf db casinoGroupId query rank index).total =
      (matching db casinoGroupId query).length := rfl

section Ranks

theorem pairwise_ordering (rank : String → ℕ) :
    (ordering db casinoGroupId query rank).Pairwise fun first second =>
      first.startsAt < second.startsAt ∨
        (first.startsAt = second.startsAt ∧ rank first.providerRef ≤ rank second.providerRef) :=
  Ranking.pairwise_insertionSort Fixture.startsAt (fun fixture => rank fixture.providerRef) _

variable (query) in
theorem sorts_ordering (rank : String → ℕ) :
    Sorts Fixture.startsAt (matching db casinoGroupId query)
      (ordering db casinoGroupId query rank) where
  perm := List.perm_insertionSort _ _
  sorted := (pairwise_ordering rank).imp fun before =>
    before.elim le_of_lt fun same => le_of_eq same.1

theorem nodup_matching : ((matching db casinoGroupId query).map Fixture.providerRef).Nodup :=
  (List.filter_sublist.map _).nodup db.catalog.fixtures.unique

/-- Every way to order fixtures that start at the same time is by some rank. -/
theorem exists_rank {list : List Fixture}
    (sorts : Sorts Fixture.startsAt (matching db casinoGroupId query) list) :
    ∃ rank, ordering db casinoGroupId query rank = list := by
  let refs := list.map Fixture.providerRef
  have distinct : refs.Nodup := (sorts.perm.map _).nodup_iff.mpr nodup_matching
  have ordered : list.Pairwise fun first second => first.startsAt < second.startsAt ∨
      (first.startsAt = second.startsAt ∧
        refs.idxOf first.providerRef ≤ refs.idxOf second.providerRef) := by
    rw [List.pairwise_iff_getElem]
    intro earlier later below bound order
    have place : ∀ index, (inside : index < list.length) →
        refs.idxOf list[index].providerRef = index := by
      intro index inside
      have same := distinct.idxOf_getElem index (by simpa [refs] using inside)
      simpa [refs] using same
    rw [place earlier below, place later bound]
    have sorted := List.pairwise_iff_getElem.mp sorts.sorted earlier later below bound order
    rcases lt_or_eq_of_le sorted with less | same
    · exact .inl less
    · exact .inr ⟨same, order.le⟩
  refine ⟨refs.idxOf, ?_⟩
  have same := (sorts_ordering query refs.idxOf).perm.trans sorts.perm.symm
  refine same.eq_of_pairwise ?_ (pairwise_ordering _) ordered
  intro first second inFirst inSecond before after
  have here : first.providerRef ∈ refs := List.mem_map_of_mem (same.mem_iff.mp inFirst)
  have rank : refs.idxOf first.providerRef = refs.idxOf second.providerRef := by
    rcases before with less | equal
    · exact absurd less (after.elim lt_asymm fun equal => equal.1 ▸ lt_irrefl _)
    · rcases after with less | equal'
      · exact absurd less (equal.1 ▸ lt_irrefl _)
      · exact Nat.le_antisymm equal.2 equal'.2
  have ref : first.providerRef = second.providerRef := (List.idxOf_inj here).mp rank
  exact List.inj_on_of_nodup_map distinct (same.mem_iff.mp inFirst) inSecond ref

end Ranks

section Pages

/-- Every fixture refers to teams that are stored. -/
def TeamsStored (db : Database) : Prop :=
  ∀ fixture ∈ db.catalog.fixtures.rows,
    db.catalog.teams.Has fixture.homeTeam ∧ db.catalog.teams.Has fixture.awayTeam

theorem ids_responses (stored : TeamsStored db) {list : List Fixture}
    (rows : ∀ fixture ∈ list, fixture ∈ db.catalog.fixtures.rows) :
    (list.filterMap (fixtureResponse db)).map FixtureResponse.id =
      list.map Fixture.providerRef := by
  induction list with
  | nil => rfl
  | cons fixture rest ih =>
      obtain ⟨⟨home, homeStored, homeKey⟩, away, awayStored, awayKey⟩ :=
        stored fixture (rows fixture List.mem_cons_self)
      have made : fixtureResponse db fixture = some ⟨fixture.providerRef, fixture.league,
          fixture.startsAt, fixture.status, teamResponse home, teamResponse away⟩ := by
        simp [fixtureResponse, ← homeKey, ← awayKey, Table.get?_of_mem homeStored,
          Table.get?_of_mem awayStored]
      rw [List.filterMap_cons_some made, List.map_cons, List.map_cons,
        ih fun other member => rows other (List.mem_cons_of_mem _ member)]

theorem ids_browsed (stored : TeamsStored db) (ranks : ℕ → String → ℕ) (count : ℕ) :
    (browsed db casinoGroupId query ranks count).map FixtureResponse.id =
      (browse query.pageSize count fun index =>
        ordering db casinoGroupId query (ranks index)).map Fixture.providerRef := by
  rw [browsed, browse, List.map_flatMap, List.map_flatMap]
  congr 1
  funext index
  rw [pageOf_data]
  apply ids_responses stored
  intro fixture member
  have listed := List.mem_of_mem_drop (List.mem_of_mem_take member)
  have matched := (sorts_ordering query (ranks index)).perm.mem_iff.mp listed
  exact (List.mem_filter.mp matched).1

/-- However the database orders fixtures that start at the same time in each query, the pages
list every matching fixture once, and each tells their number, exactly if on both sides of
every page boundary fixtures start at different times. -/
theorem pages_list_each_once_iff (stored : TeamsStored db) (some_size : 0 < query.pageSize) :
    (∀ ranks count, (matching db casinoGroupId query).length ≤ count * query.pageSize →
      ((browsed db casinoGroupId query ranks count).map FixtureResponse.id).Perm
        ((matching db casinoGroupId query).map Fixture.providerRef) ∧
      ∀ index, (pageOf db casinoGroupId query (ranks index) index).total =
        (matching db casinoGroupId query).length) ↔
    ∀ index, 0 < index → index * query.pageSize < (matching db casinoGroupId query).length →
      Divides Fixture.startsAt (matching db casinoGroupId query) (index * query.pageSize) := by
  constructor
  · intro complete index positive inside
    by_contra same
    obtain ⟨orderings, sorts, repeats⟩ := exists_repeating some_size positive inside same
    choose ranks ordered using fun page => exists_rank (sorts page)
    have enough : (matching db casinoGroupId query).length ≤
        (index + 1 + (matching db casinoGroupId query).length) * query.pageSize :=
      (Nat.le_add_left _ _).trans (Nat.le_mul_of_pos_right _ some_size)
    have listed := (complete ranks _ enough).1
    rw [ids_browsed stored] at listed
    simp only [ordered] at listed
    have distinct := listed.nodup_iff.mpr nodup_matching
    exact repeats _ (by omega) (List.Nodup.of_map _ distinct)
  · intro divides ranks count enough
    refine ⟨?_, fun index => pageOf_total (ranks index) index⟩
    rw [ids_browsed stored]
    exact (browse_all (fun index => sorts_ordering query (ranks index)) divides enough).map _

end Pages

section Sample

/-- Two fixtures, the second of which starts at the given time. -/
def twoFixtures (secondAt : Time) : Database where
  catalog := { Sample.catalog .live .open with
    fixtures := ⟨[⟨"first", "league", "ants", "bees", 0, .live⟩,
      ⟨"second", "league", "bees", "ants", secondAt, .live⟩], by simp⟩ }
  ledger := .empty
  audit := []

/-- One fixture a page. -/
def onePerPage : ListFixturesQuery := ⟨⟨1, 1⟩, none, none, none, none⟩

/-- The first query puts the second fixture last, and the next one first. -/
def swapped (index : ℕ) (fixture : String) : ℕ :=
  if fixture = "second" then 1 - index else index

theorem simultaneous_fixture_lost :
    (browsed (twoFixtures 0) "group" onePerPage swapped 2).map FixtureResponse.id =
      ["first", "first"] ∧
    (pageOf (twoFixtures 0) "group" onePerPage (swapped 0) 0).total = 2 := by
  decide +kernel

theorem teamsStored_twoFixtures (secondAt : Time) : TeamsStored (twoFixtures secondAt) := by
  have ants : (twoFixtures secondAt).catalog.teams.Has "ants" :=
    ⟨⟨"ants", "soccer", "Ants", none⟩, Table.mem_rows.mp List.mem_cons_self, rfl⟩
  have bees : (twoFixtures secondAt).catalog.teams.Has "bees" :=
    ⟨⟨"bees", "soccer", "Bees", none⟩,
      Table.mem_rows.mp (List.mem_cons_of_mem _ List.mem_cons_self), rfl⟩
  intro fixture member
  rcases List.mem_cons.mp member with rfl | rest
  · exact ⟨ants, bees⟩
  · rw [List.mem_singleton.mp rest]
    exact ⟨bees, ants⟩

theorem successive_fixtures_listed :
    ((browsed (twoFixtures 1) "group" onePerPage swapped 2).map FixtureResponse.id).Perm
      ["first", "second"] := by
  have divided : ∀ index, 0 < index →
      index * onePerPage.pageSize < (matching (twoFixtures 1) "group" onePerPage).length →
      Divides Fixture.startsAt (matching (twoFixtures 1) "group" onePerPage)
        (index * onePerPage.pageSize) := by
    intro index positive inside
    have two : (matching (twoFixtures 1) "group" onePerPage).length = 2 := by decide +kernel
    obtain rfl : index = 1 := by
      rw [two] at inside
      simp only [onePerPage, Nat.mul_one] at inside
      omega
    decide +kernel
  have listed := (pages_list_each_once_iff (teamsStored_twoFixtures 1) (by decide)).mpr divided
  have both : (matching (twoFixtures 1) "group" onePerPage).map Fixture.providerRef =
      ["first", "second"] := by decide +kernel
  exact both ▸ (listed swapped 2 (by decide +kernel)).1

end Sample

end SportsBetting.FixturesService
