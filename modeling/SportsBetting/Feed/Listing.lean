import SportsBetting.Feed.Mapper

/-!
# What a mapped snapshot lists

Everything that a snapshot of the odds feed refers to is in the snapshot too,
and the markets and selections of a game are settled if the game has ended.
-/

namespace SportsBetting.OddsApi

open Text

/-- The feed says that the game is over. -/
def completed (input : MapOddsApiInput) (id : String) : Bool :=
  (((scoresByEventId input).get? id).map OddsApiEventScore.completed).getD false

/-- The ids of the games with odds have no colon. -/
def PlainIds (input : MapOddsApiInput) : Prop :=
  ∀ sportKey ∈ input.sportKeys, ∀ event ∈ input.oddsBySport sportKey, ':' ∉ event.id.toList

/-- What holds of the maps as they grow. -/
structure Listing (input : MapOddsApiInput) (maps : SnapshotMaps) : Prop where
  leagues : ∀ league ∈ maps.leagues, maps.sports.Has league.sportKey
  teams : ∀ team ∈ maps.teams, maps.sports.Has team.sportKey
  fixtures : ∀ fixture ∈ maps.fixtures, maps.leagues.Has fixture.leagueKey ∧
    maps.teams.Has fixture.homeTeamKey ∧ maps.teams.Has fixture.awayTeamKey
  events : ∀ event ∈ maps.events, event.fixtureProviderRef = event.providerRef ∧
    maps.fixtures.Has event.providerRef ∧ event.status ≠ .cancelled ∧ event.status ≠ .suspended
  markets : ∀ market ∈ maps.markets, before ':' market.providerRef = market.eventProviderRef ∧
    (market.status = if completed input market.eventProviderRef then .settled else .open) ∧
    ∃ event ∈ maps.events, event.providerRef = market.eventProviderRef ∧
      (event.status = .ended ↔ completed input market.eventProviderRef = true)
  selections : ∀ selection ∈ maps.selections, ∃ market ∈ maps.markets,
    market.providerRef = selection.marketProviderRef ∧
      selection.status = if completed input market.eventProviderRef then .settled else .open

section Steps

variable {runtime : Runtime} {now : Time} {input : MapOddsApiInput} {maps : SnapshotMaps}

theorem Listing.empty : Listing input .empty where
  leagues _ member := nomatch (Table.mem_empty _).mp member
  teams _ member := nomatch (Table.mem_empty _).mp member
  fixtures _ member := nomatch (Table.mem_empty _).mp member
  events _ member := nomatch (Table.mem_empty _).mp member
  markets _ member := nomatch (Table.mem_empty _).mp member
  selections _ member := nomatch (Table.mem_empty _).mp member

theorem eventStatus_eq_ended {commenceTime : String} {score : Option OddsApiEventScore} :
    eventStatus runtime now commenceTime score = .ended ↔
      (score.map OddsApiEventScore.completed).getD false = true := by
  unfold eventStatus fixtureStatus
  by_cases past : (score.map OddsApiEventScore.completed).getD false = true
  · simp [past]
  · by_cases started : hasStarted runtime now commenceTime = true
    · simp [past, started]
    · simp [past, started]

theorem eventStatus_ne {commenceTime : String} {score : Option OddsApiEventScore} :
    eventStatus runtime now commenceTime score ≠ .cancelled ∧
      eventStatus runtime now commenceTime score ≠ .suspended := by
  unfold eventStatus
  split <;> exact ⟨nofun, nofun⟩

/-- A game may be listed if it is listed as over whenever its markets are settled. -/
theorem Listing.addGame (listing : Listing input maps) {sportKey groupSportKey id commenceTime
      homeTeam awayTeam : String} {score : Option OddsApiEventScore}
    (sport : maps.sports.Has groupSportKey) (league : maps.leagues.Has sportKey)
    (agrees : (score.map OddsApiEventScore.completed).getD false = completed input id ∨
      ¬ maps.events.Has id) :
    Listing input (addGame runtime now sportKey groupSportKey id commenceTime homeTeam awayTeam score
      maps) := by
  constructor
  · exact listing.leagues
  · intro team member
    rcases Table.mem_put.mp member with rfl | ⟨member, _⟩
    · exact sport
    · rcases Table.mem_put.mp member with rfl | ⟨member, _⟩
      · exact sport
      · exact listing.teams team member
  · intro fixture member
    rcases Table.mem_put.mp member with rfl | ⟨member, _⟩
    · exact ⟨league, (Table.has_put_self _ _).put _, Table.has_put_self _ _⟩
    · obtain ⟨league, home, away⟩ := listing.fixtures fixture member
      exact ⟨league, (home.put _).put _, (away.put _).put _⟩
  · intro event member
    rcases Table.mem_put.mp member with rfl | ⟨member, _⟩
    · exact ⟨rfl, Table.has_put_self _ _, eventStatus_ne⟩
    · obtain ⟨own, fixture, status⟩ := listing.events event member
      exact ⟨own, fixture.put _, status⟩
  · intro market member
    obtain ⟨plain, status, event, listed, same, graded⟩ := listing.markets market member
    refine ⟨plain, status, ?_⟩
    by_cases here : event.providerRef = id
    · rcases agrees with agrees | absent
      · refine ⟨_, Table.mem_put_self _ _, here.symm.trans same, ?_⟩
        rw [eventStatus_eq_ended, agrees, ← here, same]
      · exact absurd ⟨event, listed, here⟩ absent
    · exact ⟨event, Table.mem_put.mpr (.inr ⟨listed, here⟩), same, graded⟩
  · exact listing.selections

/-- The maps list the event, as over if and only if the feed says so. -/
def Graded (input : MapOddsApiInput) (maps : SnapshotMaps) (id : String) : Prop :=
  ∃ event ∈ maps.events, event.providerRef = id ∧ (event.status = .ended ↔ completed input id = true)

theorem Listing.addOutcomes (listing : Listing input maps) {event : OddsApiEventOdds}
    {bookmaker : OddsApiBookmaker} {market : OddsApiMarket}
    {listed : NormalizedMarket} (member : listed ∈ maps.markets)
    (named : listed.providerRef = event.id ++ ":" ++ bookmaker.key ++ ":" ++ market.key)
    (of : listed.eventProviderRef = event.id) (outcomes : List OddsApiOutcome) :
    Listing input { maps with
      selections := outcomes.foldl (fun selections outcome => selections.put
        (selectionEntry runtime event bookmaker (completed input event.id) market outcome))
        maps.selections } := by
  induction outcomes generalizing maps with
  | nil => exact listing
  | cons outcome rest ih =>
      have first : Listing input { maps with
          selections := maps.selections.put
            (selectionEntry runtime event bookmaker (completed input event.id) market outcome) } := by
        refine ⟨listing.leagues, listing.teams, listing.fixtures, listing.events, listing.markets, ?_⟩
        intro selection stored
        rcases Table.mem_put.mp stored with rfl | ⟨old, _⟩
        · exact ⟨listed, member, named, by rw [of]; rfl⟩
        · exact listing.selections selection old
      exact ih first member

theorem Listing.addMarket (listing : Listing input maps) {event : OddsApiEventOdds}
    (plain : ':' ∉ event.id.toList) (graded : Graded input maps event.id)
    (bookmaker : OddsApiBookmaker) (market : OddsApiMarket) :
    Listing input (addMarket runtime input event bookmaker (completed input event.id) maps market) := by
  unfold OddsApi.addMarket
  split
  · next type _ _ =>
      have ref : before ':' (marketEntry event bookmaker (completed input event.id) market
          type).providerRef = event.id := by
        have named : (marketEntry event bookmaker (completed input event.id) market
            type).providerRef = event.id ++ String.singleton ':' ++ (bookmaker.key ++ ":" ++ market.key) := by
          simp [marketEntry, String.append_assoc]
        rw [named]
        exact before_append plain _
      have stored : Listing input { maps with
          markets := maps.markets.put
            (marketEntry event bookmaker (completed input event.id) market type) } := by
        refine ⟨listing.leagues, listing.teams, listing.fixtures, listing.events, ?_, ?_⟩
        · intro listed member
          rcases Table.mem_put.mp member with rfl | ⟨old, _⟩
          · exact ⟨ref, rfl, graded⟩
          · exact listing.markets listed old
        · intro selection member
          obtain ⟨listed, old, named, status⟩ := listing.selections selection member
          by_cases same : listed.providerRef = (marketEntry event bookmaker
              (completed input event.id) market type).providerRef
          · -- The reference tells the game, so the row keeps its game and its status.
            have of : listed.eventProviderRef = event.id := by
              rw [← (listing.markets listed old).1, same, ref]
            exact ⟨_, Table.mem_put_self _ _, same.symm.trans named, by rw [status, of]; rfl⟩
          · exact ⟨listed, Table.mem_put.mpr (.inr ⟨old, same⟩), named, status⟩
      exact stored.addOutcomes (Table.mem_put_self _ _) rfl rfl market.outcomes
  · exact listing

theorem Graded.addMarket {id : String} (graded : Graded input maps id) (event : OddsApiEventOdds)
    (bookmaker : OddsApiBookmaker) (isEnded : Bool) (market : OddsApiMarket) :
    Graded input (addMarket runtime input event bookmaker isEnded maps market) id := by
  unfold OddsApi.addMarket
  split <;> exact graded

theorem Listing.addMarkets (listing : Listing input maps) {event : OddsApiEventOdds}
    (plain : ':' ∉ event.id.toList) (graded : Graded input maps event.id)
    (bookmaker : OddsApiBookmaker) (markets : List OddsApiMarket) :
    Listing input (markets.foldl
      (OddsApi.addMarket runtime input event bookmaker (completed input event.id)) maps) := by
  induction markets generalizing maps with
  | nil => exact listing
  | cons market rest ih =>
      exact ih (listing.addMarket plain graded bookmaker market) (graded.addMarket event bookmaker _ market)

/-- What a sport has put into the maps for its games to refer to. -/
def Founded (config : OddsApiSportConfig) (sportKey : String) (maps : SnapshotMaps) : Prop :=
  maps.sports.Has config.groupSportKey ∧ maps.leagues.Has sportKey

theorem founded_addMarkets {config : OddsApiSportConfig} {sportKey : String}
    (founded : Founded config sportKey maps) (event : OddsApiEventOdds)
    (bookmaker : OddsApiBookmaker) (isEnded : Bool) (markets : List OddsApiMarket) :
    Founded config sportKey (markets.foldl (OddsApi.addMarket runtime input event bookmaker isEnded)
      maps) := by
  induction markets generalizing maps with
  | nil => exact founded
  | cons market rest ih =>
      apply ih
      unfold OddsApi.addMarket
      split <;> exact founded

theorem Listing.addOdds (listing : Listing input maps) {sportKey : String}
    {config : OddsApiSportConfig} (founded : Founded config sportKey maps)
    {event : OddsApiEventOdds} (plain : ':' ∉ event.id.toList) :
    Listing input (addOdds runtime now input sportKey config maps event) ∧
      Founded config sportKey (addOdds runtime now input sportKey config maps event) := by
  have ended : decide (eventStatus runtime now event.commence_time
      ((scoresByEventId input).get? event.id) = .ended) = completed input event.id := by
    rw [Bool.eq_iff_iff, decide_eq_true_iff]
    exact eventStatus_eq_ended
  have game : Listing input (OddsApi.addGame runtime now sportKey config.groupSportKey event.id
      event.commence_time event.home_team event.away_team ((scoresByEventId input).get? event.id)
      maps) := listing.addGame founded.1 founded.2 (.inl rfl)
  have graded : Graded input (OddsApi.addGame runtime now sportKey config.groupSportKey event.id
      event.commence_time event.home_team event.away_team ((scoresByEventId input).get? event.id)
      maps) event.id := ⟨_, Table.mem_put_self _ _, rfl, eventStatus_eq_ended⟩
  unfold OddsApi.addOdds
  dsimp only
  rw [ended]
  split
  · exact ⟨game, founded⟩
  · next bookmaker _ =>
      have stillFounded : Founded config sportKey (OddsApi.addGame runtime now sportKey
          config.groupSportKey event.id event.commence_time event.home_team event.away_team
          ((scoresByEventId input).get? event.id) maps) := founded
      exact ⟨game.addMarkets plain graded bookmaker _,
        founded_addMarkets stillFounded event bookmaker _ _⟩

theorem Listing.addScore (listing : Listing input maps) {sportKey : String}
    {config : OddsApiSportConfig} (founded : Founded config sportKey maps)
    (score : OddsApiEventScore) :
    Listing input (addScore runtime now input sportKey config maps score) ∧
      Founded config sportKey (addScore runtime now input sportKey config maps score) := by
  unfold OddsApi.addScore
  dsimp only
  split
  · exact ⟨listing, founded⟩
  · next absent =>
      refine ⟨listing.addGame founded.1 founded.2 (.inr ?_), founded⟩
      rintro ⟨event, listed, same⟩
      have found : maps.events.get? score.id = some event :=
        Table.get?_eq_some_iff.mpr ⟨listed, same⟩
      exact absent (.inr (by rw [found]; rfl))

/-- A sport is entered once. -/
theorem enters_sport (sports : Table NormalizedSport NormalizedSport.key) (sport : NormalizedSport) :
    let after := match sports.get? sport.key with
      | some _ => sports
      | none => sports.put sport
    after.Has sport.key ∧ ∀ key, sports.Has key → after.Has key := by
  cases found : sports.get? sport.key with
  | some old => exact ⟨⟨old, Table.get?_eq_some_iff.mp found⟩, fun _ has => has⟩
  | none => exact ⟨Table.has_put_self _ _, fun _ has => has.put _⟩

theorem Listing.enter (listing : Listing input maps)
    {sports : Table NormalizedSport NormalizedSport.key}
    (grown : ∀ key, maps.sports.Has key → sports.Has key) {league : NormalizedLeague}
    (sport : sports.Has league.sportKey) :
    Listing input { maps with sports, leagues := maps.leagues.put league } := by
  constructor
  · intro other member
    rcases Table.mem_put.mp member with rfl | ⟨old, _⟩
    · exact sport
    · exact grown _ (listing.leagues other old)
  · exact fun team member => grown _ (listing.teams team member)
  · intro fixture member
    obtain ⟨under, teams⟩ := listing.fixtures fixture member
    exact ⟨under.put _, teams⟩
  · exact listing.events
  · exact listing.markets
  · exact listing.selections

theorem Listing.addSport (listing : Listing input maps) {sportKey : String}
    (plain : ∀ event ∈ input.oddsBySport sportKey, ':' ∉ event.id.toList) :
    Listing input (addSport runtime now input maps sportKey) := by
  unfold OddsApi.addSport
  dsimp only
  generalize resolveSportConfig runtime sportKey _ = config
  have entered := enters_sport maps.sports ⟨config.groupSportKey,
    ((input.apiSports.reverse.find? fun sport => decide (sport.key = sportKey)).map
      OddsApiSport.group).getD config.groupSportKey, config.groupSportKey⟩
  refine (List.foldlRecOn (motive := fun maps => Listing input maps ∧ Founded config sportKey maps)
    _ _ ?_ fun maps held score _ => held.1.addScore held.2 score).1
  refine List.foldlRecOn (motive := fun maps => Listing input maps ∧ Founded config sportKey maps)
    _ _ ?_ fun maps held event member => held.1.addOdds held.2 (plain event member)
  exact ⟨listing.enter entered.2 entered.1, entered.1, Table.has_put_self _ _⟩

end Steps

/-- A snapshot has what it refers to, under keys that it lists once. -/
structure Coherent (snapshot : ProviderSnapshot) : Prop where
  leagues : ∀ league ∈ snapshot.leagues, ∃ sport ∈ snapshot.sports, sport.key = league.sportKey
  teams : ∀ team ∈ snapshot.teams, ∃ sport ∈ snapshot.sports, sport.key = team.sportKey
  fixtures : ∀ fixture ∈ snapshot.fixtures,
    (∃ league ∈ snapshot.leagues, league.key = fixture.leagueKey) ∧
    (∃ team ∈ snapshot.teams, team.key = fixture.homeTeamKey) ∧
    ∃ team ∈ snapshot.teams, team.key = fixture.awayTeamKey
  events : ∀ event ∈ snapshot.events, event.fixtureProviderRef = event.providerRef ∧
    (∃ fixture ∈ snapshot.fixtures, fixture.providerRef = event.providerRef) ∧
    event.status ≠ .cancelled ∧ event.status ≠ .suspended
  markets : ∀ market ∈ snapshot.markets, before ':' market.providerRef = market.eventProviderRef ∧
    ∃ event ∈ snapshot.events, event.providerRef = market.eventProviderRef ∧
      market.status = if event.status = .ended then .settled else .open
  selections : ∀ selection ∈ snapshot.selections, ∃ market ∈ snapshot.markets,
    market.providerRef = selection.marketProviderRef ∧
      selection.status = if market.status = .settled then .settled else .open
  eventsOnce : (snapshot.events.map NormalizedEvent.providerRef).Nodup
  marketsOnce : (snapshot.markets.map NormalizedMarket.providerRef).Nodup
  selectionsOnce : (snapshot.selections.map NormalizedSelection.providerRef).Nodup

theorem Coherent.event_eq {snapshot : ProviderSnapshot} (coherent : Coherent snapshot)
    {first second : NormalizedEvent} (one : first ∈ snapshot.events)
    (other : second ∈ snapshot.events) (same : first.providerRef = second.providerRef) :
    first = second :=
  List.inj_on_of_nodup_map coherent.eventsOnce one other same

theorem Listing.coherent {input : MapOddsApiInput} {maps : SnapshotMaps}
    (listing : Listing input maps) : Coherent maps.snapshot where
  leagues := listing.leagues
  teams := listing.teams
  fixtures := listing.fixtures
  events := listing.events
  markets market member := by
    obtain ⟨plain, status, event, listed, same, graded⟩ := listing.markets market member
    refine ⟨plain, event, listed, same, ?_⟩
    rw [status]
    exact if_congr graded.symm rfl rfl
  selections selection member := by
    obtain ⟨market, listed, same, status⟩ := listing.selections selection member
    refine ⟨market, listed, same, ?_⟩
    rw [status, (listing.markets market listed).2.1]
    cases completed input market.eventProviderRef <;> rfl
  eventsOnce := maps.events.unique
  marketsOnce := maps.markets.unique
  selectionsOnce := maps.selections.unique

/-- **Mapped snapshots are coherent**, whatever the feed answers. -/
theorem coherent_mapOddsApiToSnapshot (runtime : Runtime) (now : Time) {input : MapOddsApiInput}
    (plain : PlainIds input) : Coherent (mapOddsApiToSnapshot runtime now input) := by
  have listing : Listing input
      (input.sportKeys.foldl (addSport runtime now input) SnapshotMaps.empty) :=
    List.foldlRecOn _ _ .empty fun maps listing sportKey member =>
      listing.addSport (plain sportKey member)
  exact listing.coherent

end SportsBetting.OddsApi
