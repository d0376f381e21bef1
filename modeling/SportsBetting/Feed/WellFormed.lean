import SportsBetting.Feed.Listing

/-!
# Well-formed snapshots

The fixture and the event of a game are written together, so whichever pass of
the mapper writes last, they agree on where the game stands.
-/

namespace SportsBetting.OddsApi

open Text

/-- The fixture and the event are at the same stage of the game. -/
inductive SameStatus : FixtureStatus → EventStatus → Prop where
  | scheduled : SameStatus .scheduled .scheduled
  | live : SameStatus .live .live
  | ended : SameStatus .ended .ended

theorem sameStatus (runtime : Runtime) (now : Time) (commenceTime : String)
    (score : Option OddsApiEventScore) :
    SameStatus (fixtureStatus runtime now commenceTime score)
      (eventStatus runtime now commenceTime score) := by
  unfold eventStatus fixtureStatus
  by_cases past : (score.map OddsApiEventScore.completed).getD false = true
  · simpa only [past, if_true] using SameStatus.ended
  · by_cases started : hasStarted runtime now commenceTime = true
    · simpa [past, started] using SameStatus.live
    · simpa [past, started] using SameStatus.scheduled

/-- The games that have a fixture are those that have an event, at the same stage. -/
structure Paired (maps : SnapshotMaps) : Prop where
  listed : ∀ ref, maps.fixtures.Has ref ↔ maps.events.Has ref
  agree : ∀ fixture ∈ maps.fixtures, ∀ event ∈ maps.events,
    fixture.providerRef = event.providerRef → SameStatus fixture.status event.status

section Steps

variable {runtime : Runtime} {now : Time} {input : MapOddsApiInput} {maps : SnapshotMaps}

theorem Paired.empty : Paired .empty where
  listed ref := by
    constructor
    · rintro ⟨_, member, _⟩
      exact nomatch (Table.mem_empty _).mp member
    · rintro ⟨_, member, _⟩
      exact nomatch (Table.mem_empty _).mp member
  agree _ member := nomatch (Table.mem_empty _).mp member

theorem has_put_iff {Row : Type} {key : Row → String} {table : Table Row key} {row : Row}
    {wanted : String} : (table.put row).Has wanted ↔ key row = wanted ∨ table.Has wanted := by
  constructor
  · rintro ⟨other, member, rfl⟩
    rcases Table.mem_put.mp member with rfl | ⟨old, _⟩
    · exact .inl rfl
    · exact .inr ⟨other, old, rfl⟩
  · rintro (rfl | has)
    · exact Table.has_put_self _ _
    · exact has.put _

theorem Paired.addGame (paired : Paired maps) (sportKey groupSportKey id commenceTime homeTeam
    awayTeam : String) (score : Option OddsApiEventScore) :
    Paired (addGame runtime now sportKey groupSportKey id commenceTime homeTeam awayTeam score
      maps) := by
  constructor
  · intro ref
    have fixtures : (OddsApi.addGame runtime now sportKey groupSportKey id commenceTime homeTeam
        awayTeam score maps).fixtures.Has ref ↔ id = ref ∨ maps.fixtures.Has ref := has_put_iff
    have events : (OddsApi.addGame runtime now sportKey groupSportKey id commenceTime homeTeam
        awayTeam score maps).events.Has ref ↔ id = ref ∨ maps.events.Has ref := has_put_iff
    rw [fixtures, events, paired.listed ref]
  · intro fixture stored event listed same
    rcases Table.mem_put.mp stored with rfl | ⟨oldFixture, otherFixture⟩
    · rcases Table.mem_put.mp listed with rfl | ⟨_, otherEvent⟩
      · exact sameStatus runtime now commenceTime score
      · exact absurd same.symm otherEvent
    · rcases Table.mem_put.mp listed with rfl | ⟨oldEvent, _⟩
      · exact absurd same otherFixture
      · exact paired.agree fixture oldFixture event oldEvent same

theorem Paired.addMarkets (paired : Paired maps) (event : OddsApiEventOdds)
    (bookmaker : OddsApiBookmaker) (isEnded : Bool) (markets : List OddsApiMarket) :
    Paired (markets.foldl (addMarket runtime input event bookmaker isEnded) maps) := by
  induction markets generalizing maps with
  | nil => exact paired
  | cons market rest ih =>
      apply ih
      unfold OddsApi.addMarket
      split <;> exact ⟨paired.listed, paired.agree⟩

theorem Paired.addOdds (paired : Paired maps) (sportKey : String) (config : OddsApiSportConfig)
    (event : OddsApiEventOdds) : Paired (addOdds runtime now input sportKey config maps event) := by
  have game : Paired (OddsApi.addGame runtime now sportKey config.groupSportKey event.id
      event.commence_time event.home_team event.away_team ((scoresByEventId input).get? event.id)
      maps) := paired.addGame sportKey config.groupSportKey event.id event.commence_time _ _ _
  unfold OddsApi.addOdds
  dsimp only
  split
  · exact game
  · next bookmaker _ => exact game.addMarkets event bookmaker _ _

theorem Paired.addScore (paired : Paired maps) (sportKey : String) (config : OddsApiSportConfig)
    (score : OddsApiEventScore) :
    Paired (addScore runtime now input sportKey config maps score) := by
  unfold OddsApi.addScore
  dsimp only
  split
  · exact paired
  · exact paired.addGame sportKey config.groupSportKey score.id score.commence_time
      score.home_team score.away_team (some score)

theorem Paired.addSport (paired : Paired maps) (sportKey : String) :
    Paired (addSport runtime now input maps sportKey) := by
  unfold OddsApi.addSport
  dsimp only
  generalize resolveSportConfig runtime sportKey _ = config
  refine List.foldlRecOn _ _ ?_ fun maps held score _ => held.addScore sportKey config score
  refine List.foldlRecOn _ _ ?_ fun maps held event _ => held.addOdds sportKey config event
  exact ⟨paired.listed, paired.agree⟩

end Steps

/-- Where markets and selections stand, given the event they belong to. -/
def marketStatusOf (event : NormalizedEvent) : MarketStatus :=
  if event.status = .ended then .settled else .open

def selectionStatusOf (event : NormalizedEvent) : SelectionStatus :=
  if event.status = .ended then .settled else .open

/-- Each list names its members once, every reference is to a member, and the statuses agree. -/
structure WellFormed (snapshot : ProviderSnapshot) : Prop where
  sportsOnce : (snapshot.sports.map NormalizedSport.key).Nodup
  leaguesOnce : (snapshot.leagues.map NormalizedLeague.key).Nodup
  teamsOnce : (snapshot.teams.map NormalizedTeam.key).Nodup
  fixturesOnce : (snapshot.fixtures.map NormalizedFixture.providerRef).Nodup
  eventsOnce : (snapshot.events.map NormalizedEvent.providerRef).Nodup
  marketsOnce : (snapshot.markets.map NormalizedMarket.providerRef).Nodup
  selectionsOnce : (snapshot.selections.map NormalizedSelection.providerRef).Nodup
  leagues : ∀ league ∈ snapshot.leagues, ∃ sport ∈ snapshot.sports, sport.key = league.sportKey
  teams : ∀ team ∈ snapshot.teams, ∃ sport ∈ snapshot.sports, sport.key = team.sportKey
  fixtures : ∀ fixture ∈ snapshot.fixtures,
    (∃ league ∈ snapshot.leagues, league.key = fixture.leagueKey) ∧
    (∃ team ∈ snapshot.teams, team.key = fixture.homeTeamKey) ∧
    (∃ team ∈ snapshot.teams, team.key = fixture.awayTeamKey) ∧
    ∃ event ∈ snapshot.events, event.providerRef = fixture.providerRef ∧
      SameStatus fixture.status event.status
  events : ∀ event ∈ snapshot.events, event.fixtureProviderRef = event.providerRef ∧
    ∃ fixture ∈ snapshot.fixtures, fixture.providerRef = event.providerRef ∧
      SameStatus fixture.status event.status
  markets : ∀ market ∈ snapshot.markets, ∃ event ∈ snapshot.events,
    event.providerRef = market.eventProviderRef ∧ market.status = marketStatusOf event
  selections : ∀ selection ∈ snapshot.selections, ∃ market ∈ snapshot.markets,
    market.providerRef = selection.marketProviderRef ∧
      ∃ event ∈ snapshot.events, event.providerRef = market.eventProviderRef ∧
        selection.status = selectionStatusOf event

section Mapped

variable (runtime : Runtime) (now : Time) {input : MapOddsApiInput}

theorem paired_maps (input : MapOddsApiInput) :
    Paired (input.sportKeys.foldl (addSport runtime now input) SnapshotMaps.empty) :=
  List.foldlRecOn _ _ .empty fun _ paired sportKey _ => paired.addSport sportKey

theorem fixture_has_event {fixture : NormalizedFixture}
    (stored : fixture ∈ (mapOddsApiToSnapshot runtime now input).fixtures) :
    ∃ event ∈ (mapOddsApiToSnapshot runtime now input).events,
      event.providerRef = fixture.providerRef ∧ SameStatus fixture.status event.status := by
  have paired := paired_maps runtime now input
  obtain ⟨event, listed, same⟩ := (paired.listed _).mp ⟨fixture, stored, rfl⟩
  exact ⟨event, listed, same, paired.agree fixture stored event listed same.symm⟩

theorem event_has_fixture {event : NormalizedEvent}
    (listed : event ∈ (mapOddsApiToSnapshot runtime now input).events) :
    ∃ fixture ∈ (mapOddsApiToSnapshot runtime now input).fixtures,
      fixture.providerRef = event.providerRef ∧ SameStatus fixture.status event.status := by
  have paired := paired_maps runtime now input
  obtain ⟨fixture, stored, same⟩ := (paired.listed _).mpr ⟨event, listed, rfl⟩
  exact ⟨fixture, stored, same, paired.agree fixture stored event listed same⟩

/-- A selection stands where its market does, and so where the event of the market does. -/
theorem Coherent.selection_status {snapshot : ProviderSnapshot} (coherent : Coherent snapshot)
    {selection : NormalizedSelection} (listed : selection ∈ snapshot.selections) :
    ∃ market ∈ snapshot.markets, market.providerRef = selection.marketProviderRef ∧
      ∃ event ∈ snapshot.events, event.providerRef = market.eventProviderRef ∧
        selection.status = selectionStatusOf event := by
  obtain ⟨market, offered, named, status⟩ := coherent.selections selection listed
  obtain ⟨_, event, held, same, graded⟩ := coherent.markets market offered
  refine ⟨market, offered, named, event, held, same, ?_⟩
  rw [status, graded]
  unfold selectionStatusOf
  by_cases past : event.status = .ended
  · simp [past]
  · simp [past]

/-- **Every mapped snapshot is well formed**, however inconsistent the feeds are. -/
theorem wellFormed_mapOddsApiToSnapshot (plain : PlainIds input) :
    WellFormed (mapOddsApiToSnapshot runtime now input) where
  sportsOnce := Table.unique _
  leaguesOnce := Table.unique _
  teamsOnce := Table.unique _
  fixturesOnce := Table.unique _
  eventsOnce := Table.unique _
  marketsOnce := Table.unique _
  selectionsOnce := Table.unique _
  leagues := (coherent_mapOddsApiToSnapshot runtime now plain).leagues
  teams := (coherent_mapOddsApiToSnapshot runtime now plain).teams
  fixtures fixture stored := by
    obtain ⟨league, home, away⟩ :=
      (coherent_mapOddsApiToSnapshot runtime now plain).fixtures fixture stored
    exact ⟨league, home, away, fixture_has_event runtime now stored⟩
  events event listed :=
    ⟨((coherent_mapOddsApiToSnapshot runtime now plain).events event listed).1,
      event_has_fixture runtime now listed⟩
  markets market listed := by
    obtain ⟨_, event, held, same, graded⟩ :=
      (coherent_mapOddsApiToSnapshot runtime now plain).markets market listed
    exact ⟨event, held, same, graded⟩
  selections _ listed :=
    (coherent_mapOddsApiToSnapshot runtime now plain).selection_status listed

end Mapped

section Sample

/-- One game under two sports, still priced in one of them while the scores call it over. -/
def finalFeed : MapOddsApiInput where
  sportKeys := ["basketball_nba", "basketball_euroleague", "basketball_nba"]
  apiSports := []
  oddsBySport _ := [⟨"final", "0", "Lakers", "Celtics",
    [⟨"book", [⟨"h2h", [⟨"Lakers", .ofDigits 19 (-1), none⟩]⟩]⟩]⟩]
  scoresBySport _ := [⟨"final", "0", true, "Lakers", "Celtics", none⟩,
    ⟨"semifinal", "9", false, "Lakers", "Bulls", none⟩]
  marketKeys := ["h2h"]

theorem wellFormed_finalFeed : PlainIds finalFeed ∧
    WellFormed (mapOddsApiToSnapshot asciiRuntime 1 finalFeed) := by
  have plain : PlainIds finalFeed := by
    intro sportKey _ event listed
    obtain rfl := List.mem_singleton.mp listed
    decide
  exact ⟨plain, wellFormed_mapOddsApiToSnapshot asciiRuntime 1 plain⟩

end Sample

end SportsBetting.OddsApi
