import SportsBetting.Feed.Mapper

/-!
# The catalog part of a snapshot

Sports, leagues and teams of a mapped snapshot, told from the keys alone: every key has
its league, a sport takes its name from the first key of its group, and a team is linked
to the group of the key it is listed under.
-/

namespace SportsBetting.OddsApi

open Text

section Entries

variable (runtime : Runtime) (apiSports : List OddsApiSport)

/-- Of several entries with one key the last one counts. -/
def sportOf (key : String) : Option OddsApiSport :=
  apiSports.reverse.find? fun sport => sport.key = key

def configOf (key : String) : OddsApiSportConfig :=
  resolveSportConfig runtime key (sportOf apiSports key)

def sportEntry (key : String) : NormalizedSport :=
  let config := configOf runtime apiSports key
  ⟨config.groupSportKey, ((sportOf apiSports key).map OddsApiSport.group).getD config.groupSportKey,
    config.groupSportKey⟩

def leagueEntry (key : String) : NormalizedLeague :=
  let config := configOf runtime apiSports key
  ⟨key, config.groupSportKey, config.leagueName,
    if config.regionName = "" then none else some config.regionName⟩

def teamEntry (key name : String) : NormalizedTeam :=
  ⟨teamKey runtime key name, (configOf runtime apiSports key).groupSportKey, name, none⟩

/-- The first key of a group. -/
def leader (keys : List String) (group : String) : Option String :=
  keys.find? fun key => (configOf runtime apiSports key).groupSportKey = group

/-- What the maps hold once the keys are passed. -/
structure Entries (passed : List String) (maps : SnapshotMaps) : Prop where
  sports : ∀ sport, sport ∈ maps.sports ↔
    ∃ key ∈ leader runtime apiSports passed sport.key, sport = sportEntry runtime apiSports key
  leagues : ∀ league, league ∈ maps.leagues ↔
    ∃ key ∈ passed, league = leagueEntry runtime apiSports key
  teams : ∀ team ∈ maps.teams, ∃ key ∈ passed, ∃ name, team = teamEntry runtime apiSports key name

/-- The games of a key add teams of the key, and nothing else to the catalog. -/
structure TeamsOnly (key : String) (first second : SnapshotMaps) : Prop where
  sports : second.sports = first.sports
  leagues : second.leagues = first.leagues
  teams : ∀ team ∈ second.teams,
    team ∈ first.teams ∨ ∃ name, team = teamEntry runtime apiSports key name

end Entries

section Games

variable {runtime : Runtime} {now : Time} {input : MapOddsApiInput} {maps : SnapshotMaps}
  {apiSports : List OddsApiSport} {key : String}

theorem TeamsOnly.refl (maps : SnapshotMaps) : TeamsOnly runtime apiSports key maps maps :=
  ⟨rfl, rfl, fun _ => .inl⟩

theorem TeamsOnly.trans {first second third : SnapshotMaps}
    (former : TeamsOnly runtime apiSports key first second)
    (latter : TeamsOnly runtime apiSports key second third) :
    TeamsOnly runtime apiSports key first third where
  sports := latter.sports.trans former.sports
  leagues := latter.leagues.trans former.leagues
  teams team member := (latter.teams team member).elim (former.teams team) .inr

theorem teamsOnly_addGame (id commenceTime homeTeam awayTeam : String)
    (score : Option OddsApiEventScore) :
    TeamsOnly runtime apiSports key maps (addGame runtime now key
      (configOf runtime apiSports key).groupSportKey id commenceTime homeTeam awayTeam score
      maps) := by
  refine ⟨rfl, rfl, fun team member => ?_⟩
  rcases Table.mem_put.mp member with rfl | ⟨member, _⟩
  · exact .inr ⟨awayTeam, rfl⟩
  rcases Table.mem_put.mp member with rfl | ⟨member, _⟩
  · exact .inr ⟨homeTeam, rfl⟩
  · exact .inl member

theorem teamsOnly_addMarkets (event : OddsApiEventOdds) (bookmaker : OddsApiBookmaker)
    (isEnded : Bool) (markets : List OddsApiMarket) :
    TeamsOnly runtime apiSports key maps
      (markets.foldl (addMarket runtime input event bookmaker isEnded) maps) := by
  induction markets generalizing maps with
  | nil => exact .refl maps
  | cons market rest ih =>
      refine .trans ?_ ih
      unfold addMarket
      split <;> exact ⟨rfl, rfl, fun _ => .inl⟩

theorem teamsOnly_addOdds (event : OddsApiEventOdds) :
    TeamsOnly runtime input.apiSports key maps
      (addOdds runtime now input key (configOf runtime input.apiSports key) maps event) := by
  unfold addOdds
  dsimp only
  split
  · exact teamsOnly_addGame ..
  · exact (teamsOnly_addGame ..).trans (teamsOnly_addMarkets ..)

theorem teamsOnly_addScore (score : OddsApiEventScore) :
    TeamsOnly runtime input.apiSports key maps
      (addScore runtime now input key (configOf runtime input.apiSports key) maps score) := by
  unfold addScore
  dsimp only
  split
  · exact .refl maps
  · exact teamsOnly_addGame ..

end Games

section Sports

variable {runtime : Runtime} {now : Time} {input : MapOddsApiInput} {maps : SnapshotMaps}
  {passed : List String}

theorem Entries.empty (runtime : Runtime) (apiSports : List OddsApiSport) :
    Entries runtime apiSports [] .empty where
  sports sport := by simp [leader, SnapshotMaps.empty]
  leagues league := by simp [SnapshotMaps.empty]
  teams _ member := nomatch (Table.mem_empty _).mp member

theorem leader_append (runtime : Runtime) (apiSports : List OddsApiSport) (passed : List String)
    (key group : String) :
    leader runtime apiSports (passed ++ [key]) group = (leader runtime apiSports passed group).or
      (if (configOf runtime apiSports key).groupSportKey = group then some key else none) := by
  simp only [leader, List.find?_append, List.find?_singleton, decide_eq_true_eq]

theorem group_of_mem_leader {runtime : Runtime} {apiSports : List OddsApiSport} {group key : String}
    (first : key ∈ leader runtime apiSports passed group) :
    (configOf runtime apiSports key).groupSportKey = group := by
  simpa using List.find?_some first

theorem exists_leader (runtime : Runtime) (apiSports : List OddsApiSport) {keys : List String}
    {key : String} (member : key ∈ keys) :
    ∃ first, first ∈ leader runtime apiSports keys (configOf runtime apiSports key).groupSportKey := by
  cases search : leader runtime apiSports keys (configOf runtime apiSports key).groupSportKey with
  | none =>
      have absent := List.find?_eq_none.mp search key member
      exact absurd (decide_eq_true rfl) absent
  | some first => exact ⟨first, rfl⟩

/-- A sport is there if and only if some key of its group has passed. -/
theorem Entries.get?_sport (entries : Entries runtime input.apiSports passed maps) (group : String) :
    maps.sports.get? group =
      (leader runtime input.apiSports passed group).map (sportEntry runtime input.apiSports) := by
  cases first : leader runtime input.apiSports passed group with
  | none =>
      refine Table.get?_eq_none_iff.mpr fun sport stored same => ?_
      obtain ⟨key, member, _⟩ := (entries.sports sport).mp stored
      rw [same, first] at member
      cases member
  | some key =>
      have named : (sportEntry runtime input.apiSports key).key = group := group_of_mem_leader first
      exact Table.get?_eq_some_iff.mpr
        ⟨(entries.sports _).mpr ⟨key, by rw [named]; exact first, rfl⟩, named⟩

/-- The maps with the sport and the league of one more key. -/
def SnapshotMaps.addKey (runtime : Runtime) (apiSports : List OddsApiSport) (maps : SnapshotMaps)
    (key : String) : SnapshotMaps :=
  { maps with
    sports :=
      match maps.sports.get? (configOf runtime apiSports key).groupSportKey with
      | some _ => maps.sports
      | none => maps.sports.put (sportEntry runtime apiSports key)
    leagues := maps.leagues.put (leagueEntry runtime apiSports key) }

theorem teamsOnly_addSport (maps : SnapshotMaps) (key : String) :
    TeamsOnly runtime input.apiSports key (maps.addKey runtime input.apiSports key)
      (addSport runtime now input maps key) := by
  have games : ∀ base : SnapshotMaps, TeamsOnly runtime input.apiSports key base
      ((input.scoresBySport key).foldl
        (addScore runtime now input key (configOf runtime input.apiSports key))
        ((input.oddsBySport key).foldl
          (addOdds runtime now input key (configOf runtime input.apiSports key)) base)) := by
    intro base
    refine List.foldlRecOn _ _ ?_ fun _ kept score _ => kept.trans (teamsOnly_addScore score)
    exact List.foldlRecOn _ _ (.refl base) fun _ kept event _ => kept.trans (teamsOnly_addOdds event)
  exact games _

theorem Entries.mem_sports_addKey (entries : Entries runtime input.apiSports passed maps)
    (key : String) (sport : NormalizedSport) :
    sport ∈ (maps.addKey runtime input.apiSports key).sports ↔
      ∃ other ∈ leader runtime input.apiSports (passed ++ [key]) sport.key,
        sport = sportEntry runtime input.apiSports other := by
  rw [leader_append]
  unfold SnapshotMaps.addKey
  dsimp only
  rw [entries.get?_sport]
  cases first : leader runtime input.apiSports passed
      (configOf runtime input.apiSports key).groupSportKey with
  | some other =>
      rw [Option.map_some, entries.sports]
      by_cases same : (configOf runtime input.apiSports key).groupSportKey = sport.key
      · rw [← same, first, Option.some_or]
      · simp [same]
  | none =>
      rw [Option.map_none, Table.mem_put, entries.sports]
      by_cases same : (configOf runtime input.apiSports key).groupSportKey = sport.key
      · rw [← same, first]
        simp
      · have other : sport ≠ sportEntry runtime input.apiSports key := by
          rintro rfl
          exact same rfl
        have apart : sport.key ≠ (sportEntry runtime input.apiSports key).key :=
          fun equal => same equal.symm
        simp [same, other, apart]

theorem Entries.mem_leagues_addKey (entries : Entries runtime input.apiSports passed maps)
    (key : String) (league : NormalizedLeague) :
    league ∈ (maps.addKey runtime input.apiSports key).leagues ↔
      ∃ other ∈ passed ++ [key], league = leagueEntry runtime input.apiSports other := by
  unfold SnapshotMaps.addKey
  rw [Table.mem_put, entries.leagues]
  constructor
  · rintro (rfl | ⟨⟨other, member, rfl⟩, _⟩)
    · exact ⟨key, by simp, rfl⟩
    · exact ⟨other, List.mem_append_left _ member, rfl⟩
  · rintro ⟨other, member, rfl⟩
    by_cases same : other = key
    · exact .inl (by rw [same])
    · refine .inr ⟨⟨other, ?_, rfl⟩, same⟩
      simpa [same] using member

theorem Entries.addSport (entries : Entries runtime input.apiSports passed maps) (key : String) :
    Entries runtime input.apiSports (passed ++ [key])
      (OddsApi.addSport runtime now input maps key) := by
  have games : TeamsOnly runtime input.apiSports key (maps.addKey runtime input.apiSports key)
      (OddsApi.addSport runtime now input maps key) := teamsOnly_addSport maps key
  constructor
  · rw [games.sports]
    exact entries.mem_sports_addKey key
  · rw [games.leagues]
    exact entries.mem_leagues_addKey key
  · intro team member
    rcases games.teams team member with stored | ⟨name, rfl⟩
    · obtain ⟨other, earlier, name, same⟩ := entries.teams team stored
      exact ⟨other, List.mem_append_left _ earlier, name, same⟩
    · exact ⟨key, by simp, name, rfl⟩

/-- The group of every key has its sport. -/
theorem Entries.has_sport (entries : Entries runtime input.apiSports passed maps) {key : String}
    (member : key ∈ passed) :
    maps.sports.Has (configOf runtime input.apiSports key).groupSportKey := by
  obtain ⟨first, leads⟩ := exists_leader runtime input.apiSports member
  have named : (sportEntry runtime input.apiSports first).key =
      (configOf runtime input.apiSports key).groupSportKey := group_of_mem_leader leads
  exact ⟨_, (entries.sports _).mpr ⟨first, named.symm ▸ leads, rfl⟩, named⟩

/-- **The catalog part of a mapped snapshot.** -/
theorem entries_mapOddsApiToSnapshot (runtime : Runtime) (now : Time) (input : MapOddsApiInput) :
    Entries runtime input.apiSports input.sportKeys
      (input.sportKeys.foldl (OddsApi.addSport runtime now input) SnapshotMaps.empty) := by
  have each : ∀ (rest passed : List String) (maps : SnapshotMaps),
      Entries runtime input.apiSports passed maps → Entries runtime input.apiSports (passed ++ rest)
        (rest.foldl (OddsApi.addSport runtime now input) maps) := by
    intro rest
    induction rest with
    | nil => simp
    | cons key rest ih =>
        intro passed maps entries
        have step : Entries runtime input.apiSports (passed ++ [key])
            (OddsApi.addSport runtime now input maps key) := entries.addSport key
        have later := ih (passed ++ [key]) _ step
        rwa [List.append_assoc] at later
  exact each input.sportKeys [] _ (.empty runtime input.apiSports)

/-- Each sport, league and team is listed once, and with the sport that it is linked to. -/
structure Rooted (snapshot : ProviderSnapshot) : Prop where
  sportsOnce : (snapshot.sports.map NormalizedSport.key).Nodup
  leaguesOnce : (snapshot.leagues.map NormalizedLeague.key).Nodup
  teamsOnce : (snapshot.teams.map NormalizedTeam.key).Nodup
  leagues : ∀ league ∈ snapshot.leagues, ∃ sport ∈ snapshot.sports, sport.key = league.sportKey
  teams : ∀ team ∈ snapshot.teams, ∃ sport ∈ snapshot.sports, sport.key = team.sportKey

theorem rooted_mapOddsApiToSnapshot (runtime : Runtime) (now : Time) (input : MapOddsApiInput) :
    Rooted (mapOddsApiToSnapshot runtime now input) where
  sportsOnce := Table.unique _
  leaguesOnce := Table.unique _
  teamsOnce := Table.unique _
  leagues league listed := by
    have entries := entries_mapOddsApiToSnapshot runtime now input
    obtain ⟨key, member, rfl⟩ := (entries.leagues league).mp listed
    exact entries.has_sport member
  teams team listed := by
    have entries := entries_mapOddsApiToSnapshot runtime now input
    obtain ⟨key, member, name, rfl⟩ := entries.teams team listed
    exact entries.has_sport member

end Sports

end SportsBetting.OddsApi
