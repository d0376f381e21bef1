import SportsBetting.Feed.Provider
import SportsBetting.Ingestion.Stored

/-!
# Catalog rows under live ticks

A live tick writes the catalog as well, from sports made up of the polled keys. Where
these say what the API said, the rows of the catalog ingest outlast any number of ticks.
-/

namespace SportsBetting.Ingestion

open Async OddsApi Text

section Frame

/-- The sports, the leagues and the teams are the same rows. -/
structure SameCatalog (first second : Database) : Prop where
  sports : second.catalog.sports = first.catalog.sports
  leagues : second.catalog.leagues = first.catalog.leagues
  teams : second.catalog.teams = first.catalog.teams

theorem OfferingOnly.sameCatalog {first second : Database} (only : OfferingOnly first second) :
    SameCatalog first second := by
  obtain ⟨offering, audit, rfl⟩ := only
  exact ⟨rfl, rfl, rfl⟩

theorem FixturesOnly.sameCatalog {first second : Database} (only : FixturesOnly first second) :
    SameCatalog first second := by
  obtain ⟨fixtures, rfl, _⟩ := only
  exact ⟨rfl, rfl, rfl⟩

variable {invariant : Database → Prop} {db : Database} (snapshot : ProviderSnapshot)
  (aside : ∀ first second, SameCatalog first second → invariant first → invariant second)

include aside in
/-- The live phase writes none of these rows. -/
theorem keeps_ingestLiveData (sound : invariant db) :
    Keeps invariant (fun _ _ => True) (ingestLiveData snapshot) db := by
  unfold ingestLiveData
  refine Upholds.bind (Upholds.read sound) fun fixtureRefs _ sound _ => ?_
  refine Upholds.bind (keeps_ingestEvents snapshot ?_ ?_ ?_ fixtureRefs sound)
    fun _ _ sound _ => ?_
  · intro event _ db after sound done
    rw [upsertEvent_ok done]
    exact aside db _ ⟨rfl, rfl, rfl⟩ sound
  · exact fun event _ _ db sound => aside db _ ⟨rfl, rfl, rfl⟩ sound
  · exact fun event _ _ db sound => aside db _ ⟨rfl, rfl, rfl⟩ sound
  refine Upholds.bind (Upholds.read sound) fun eventRefs _ sound _ => ?_
  refine Upholds.bind (keeps_ingestMarkets snapshot (fun _ => invariant) (fun _ _ held => held)
    eventRefs ?_ (fun _ _ _ _ held => held) sound) fun _ _ sound _ => ?_
  · intro market _ db after _ _ sound done
    obtain ⟨line, _, rfl⟩ := upsertMarket_ok done
    exact aside db _ ⟨rfl, rfl, rfl⟩ sound
  refine Upholds.bind (Upholds.read sound) fun marketRefs _ sound _ => ?_
  refine Upholds.bind (Upholds.read sound) fun prices _ sound _ => ?_
  refine Upholds.bind (keeps_ingestSelections snapshot _ _ ?_ ?_ sound)
    fun _ _ sound _ => Upholds.pure sound trivial
  · exact fun db odds sound => aside db _ ⟨rfl, rfl, rfl⟩ sound
  · intro selection _ _ db after sound done
    obtain ⟨price, rfl⟩ := upsertSelection_ok done
    exact aside db _ ⟨rfl, rfl, rfl⟩ sound

include aside in
theorem keeps_fixturesThenLive (runtime : Runtime) (purgeStale : Bool) {α : Type}
    (summary : ℕ → LiveCounts → α) (sound : invariant db) :
    Keeps invariant (fun _ _ => True) (do
      let fixtureCount ← upsertFixturesFromSnapshot runtime true snapshot purgeStale
      let live ← ingestLiveData snapshot
      pure (summary fixtureCount live)) db := by
  refine Upholds.bind (keeps_upsertFixturesFromSnapshot runtime true snapshot purgeStale
    (fun first second only => aside first second only.sameCatalog) (fun _ held => held)
    (fun _ never => nomatch never) sound) fun _ _ sound _ => ?_
  exact Upholds.bind (keeps_ingestLiveData snapshot aside sound) fun _ _ sound _ =>
    Upholds.pure sound trivial

end Frame

section Ingest

/-- The rows that upserts make of listed sports, leagues and teams. -/
def WritesSport (listed : NormalizedSport) (row : Sport) : Prop :=
  ∃ active, row = ⟨listed.key, listed.name, listed.slug, active⟩

def WritesLeague (listed : NormalizedLeague) (row : League) : Prop :=
  ∃ kept active, row = ⟨listed.key, listed.sportKey, listed.name, listed.region.or kept, active⟩

def WritesTeam (listed : NormalizedTeam) (row : Team) : Prop :=
  ∃ kept, row = ⟨listed.key, listed.sportKey, listed.name, listed.shortName.or kept⟩

/-- A row that an upsert made is left alone by the next one. -/
theorem upsertLeague_eq_self {db : Database} {league : NormalizedLeague} {row : League}
    (stored : row ∈ db.catalog.leagues) (writes : WritesLeague league row) :
    upsertLeague db league = db := by
  obtain ⟨kept, active, rfl⟩ := writes
  have found := Table.get?_of_mem stored
  dsimp only at found
  unfold upsertLeague
  rw [found]
  dsimp only [Option.map_some, Option.bind_some, Option.getD_some]
  rw [← Option.or_assoc, Option.or_self, Table.put_eq_self stored]

theorem upsertTeam_eq_self {db : Database} {team : NormalizedTeam} {row : Team}
    (stored : row ∈ db.catalog.teams) (writes : WritesTeam team row) : upsertTeam db team = db := by
  obtain ⟨kept, rfl⟩ := writes
  have found := Table.get?_of_mem stored
  dsimp only at found
  unfold upsertTeam
  rw [found]
  dsimp only [Option.bind_some]
  rw [← Option.or_assoc, Option.or_self, Table.put_eq_self stored]

/-- The catalog of the snapshot has been put over the rows of the database. -/
structure Overlaid (snapshot : ProviderSnapshot) (db after : Database) : Prop where
  sports : db.catalog.sports.Overlays NormalizedSport.key WritesSport snapshot.sports
    after.catalog.sports
  leagues : db.catalog.leagues.Overlays NormalizedLeague.key WritesLeague snapshot.leagues
    after.catalog.leagues
  teams : db.catalog.teams.Overlays NormalizedTeam.key WritesTeam snapshot.teams
    after.catalog.teams

variable {snapshot : ProviderSnapshot} {db : Database}

theorem Overlaid.of_same {now after : Database} (written : Overlaid snapshot db now)
    (same : SameCatalog now after) : Overlaid snapshot db after where
  sports := same.sports.symm ▸ written.sports
  leagues := same.leagues.symm ▸ written.leagues
  teams := same.teams.symm ▸ written.teams

/-- A loop that puts the rows of its items, one after the other, over a table. -/
theorem forM_overlays {Item Row : Type} {key : Row → String} (table : Database → Table Row key)
    (ref : Item → String) (writes : Item → Row → Prop)
    (named : ∀ item row, writes item row → key row = ref item) (frame : Database → Prop)
    {body : Item → Service PUnit} {items : List Item} (once : (items.map ref).Nodup)
    (each : ∀ item ∈ items, ∀ now, frame now → Returns (fun _ after => frame after ∧
      ∃ row, writes item row ∧ table after = (table now).put row) (body item) now)
    (start : frame db) :
    Returns (fun _ after => frame after ∧ (table db).Overlays ref writes items (table after))
      (items.forM body) db := by
  refine (Upholds.forM (fun rest now => frame now ∧ ∃ done, items = done ++ rest ∧
    (table db).Overlays ref writes done (table now)) ?_ trivial
    ⟨start, [], rfl, .refl ..⟩).mono ?_
  · rintro item rest now _ ⟨framed, done, split, overlays⟩
    refine (each item (by simp [split]) now framed).mono ?_
    rintro _ after ⟨framed, row, wrote, same⟩
    refine ⟨framed, done ++ [item], by simp [split], ?_⟩
    rw [same]
    exact overlays.put named (fresh_of_nodup (split ▸ once)) wrote
  · rintro _ after ⟨framed, done, split, overlays⟩
    rw [List.append_nil] at split
    exact ⟨framed, split ▸ overlays⟩

theorem upsertCatalog_writes (rooted : Rooted snapshot) :
    Returns (fun _ after => Overlaid snapshot db after) (upsertCatalogFromSnapshot snapshot) db := by
  unfold upsertCatalogFromSnapshot
  refine Upholds.bind (forM_overlays (fun now => now.catalog.sports) NormalizedSport.key WritesSport
    ?_ (fun now => now.catalog.leagues = db.catalog.leagues ∧ now.catalog.teams = db.catalog.teams)
    rooted.sportsOnce ?_ ⟨rfl, rfl⟩) ?_
  · rintro item _ ⟨active, rfl⟩
    rfl
  · rintro sport _ now ⟨leagues, teams⟩
    refine (Upholds.attempt trivial fun _ _ => trivial).mono fun _ after done => ?_
    unfold upsertSport at done
    split at done
    · cases done
    · obtain rfl := Except.ok.inj done
      exact ⟨⟨leagues, teams⟩, _, ⟨_, rfl⟩, rfl⟩
  rintro _ first _ ⟨⟨leagues, teams⟩, sports⟩
  refine Upholds.bind (Upholds.read trivial) ?_
  rintro sportKeys first' _ ⟨rfl, rfl⟩
  have known : ∀ key, (∃ sport ∈ snapshot.sports, sport.key = key) →
      key ∈ first'.catalog.sports.rows.map Sport.key := by
    rintro _ ⟨sport, listed, rfl⟩
    obtain ⟨row, stored, active, rfl⟩ := sports.written sport listed
    exact List.mem_map_of_mem stored
  refine Upholds.bind (forM_overlays (fun now => now.catalog.leagues) NormalizedLeague.key
    WritesLeague ?_ (fun now => now.catalog.sports = first'.catalog.sports ∧
      now.catalog.teams = db.catalog.teams) rooted.leaguesOnce ?_ ⟨rfl, teams⟩) ?_
  · rintro item _ ⟨kept, active, rfl⟩
    rfl
  · rintro league listed now framed
    rw [if_pos (known _ (rooted.leagues league listed))]
    refine (Upholds.write trivial trivial).mono fun _ after done => ?_
    subst done
    exact ⟨framed, _, ⟨_, _, rfl⟩, rfl⟩
  rintro _ second _ ⟨⟨sameSports, teams⟩, overLeagues⟩
  refine (forM_overlays (fun now => now.catalog.teams) NormalizedTeam.key WritesTeam ?_
    (fun now => now.catalog.sports = first'.catalog.sports ∧
      now.catalog.leagues = second.catalog.leagues) rooted.teamsOnce ?_ ⟨sameSports, rfl⟩).mono ?_
  · rintro item _ ⟨kept, rfl⟩
    rfl
  · rintro team listed now framed
    rw [if_pos (known _ (rooted.teams team listed))]
    refine (Upholds.write trivial trivial).mono fun _ after done => ?_
    subst done
    exact ⟨framed, _, ⟨_, rfl⟩, rfl⟩
  · rintro _ after ⟨⟨sameSports, sameLeagues⟩, overTeams⟩
    exact ⟨sameSports ▸ sports, sameLeagues ▸ leagues ▸ overLeagues, teams ▸ overTeams⟩

/-- A catalog ingest that returns has written the catalog of its snapshot. -/
theorem catalog_writes (runtime : Runtime) (rooted : Rooted snapshot) :
    Returns (fun _ after => Overlaid snapshot db after)
      ((IngestRun.catalog (.ok snapshot)).program runtime true) db := by
  have aside : ∀ first second, SameCatalog first second → Overlaid snapshot db first →
      Overlaid snapshot db second := fun _ _ same written => written.of_same same
  have offers : ∀ slug offered now, Overlaid snapshot db now →
      Returns (fun _ after => Overlaid snapshot db after) (syncTenantLeagues slug offered) now :=
    fun slug offered now written => (Upholds.weaken (fun _ _ => trivial) written
      (keeps_syncTenantLeagues (fun first second only => aside first second only.sameCatalog) slug
        offered written)).mono fun _ _ held => held.1
  refine Upholds.void ?_
  refine Upholds.bind (upsertCatalog_writes rooted) fun _ _ _ written => ?_
  refine Upholds.bind (offers _ _ _ written) fun _ _ _ written => ?_
  refine Upholds.bind (offers _ _ _ written) fun _ _ _ written => ?_
  exact (Upholds.weaken (fun _ _ => trivial) written
    (keeps_fixturesThenLive snapshot aside runtime true _ written)).mono fun _ _ held => held.1

end Ingest

section Ticks

variable {catalog : ProviderSnapshot} {db stored : Database}

/-- The catalog is as it was stored: the same sports and leagues, and the teams that the
snapshot lists are linked to the same sports. -/
structure Outlasts (catalog : ProviderSnapshot) (stored db : Database) : Prop where
  sports : db.catalog.sports = stored.catalog.sports
  leagues : db.catalog.leagues = stored.catalog.leagues
  teams : ∀ team ∈ stored.catalog.teams, (∃ listed ∈ catalog.teams, listed.key = team.key) →
    ∃ row ∈ db.catalog.teams, row.key = team.key ∧ row.sport = team.sport

theorem Outlasts.refl (stored : Database) : Outlasts catalog stored stored :=
  ⟨rfl, rfl, fun team member _ => ⟨team, member, rfl, rfl⟩⟩

theorem Outlasts.of_same {after : Database} (outlasts : Outlasts catalog stored db)
    (same : SameCatalog db after) : Outlasts catalog stored after where
  sports := same.sports.trans outlasts.sports
  leagues := same.leagues.trans outlasts.leagues
  teams team member listed := by
    rw [same.teams]
    exact outlasts.teams team member listed

section Rows

variable {before : Database} (overlaid : Overlaid catalog before stored)
  (outlasts : Outlasts catalog stored db)

include overlaid outlasts in
/-- A sport that the catalog lists is there already. -/
theorem Outlasts.upsertSport {after : Database} {sport : NormalizedSport}
    (listed : sport ∈ catalog.sports) (done : upsertSport db sport = .ok after) :
    Outlasts catalog stored after := by
  obtain ⟨row, there, active, rfl⟩ := overlaid.sports.written sport listed
  rw [← outlasts.sports] at there
  unfold Ingestion.upsertSport at done
  split at done
  · cases done
  · obtain rfl := Except.ok.inj done
    refine ⟨?_, outlasts.leagues, outlasts.teams⟩
    dsimp only
    rw [Table.get?_of_mem there]
    exact (Table.put_eq_self there).trans outlasts.sports

include overlaid outlasts in
theorem Outlasts.upsertLeague {league : NormalizedLeague} (listed : league ∈ catalog.leagues) :
    Outlasts catalog stored (upsertLeague db league) := by
  obtain ⟨row, there, writes⟩ := overlaid.leagues.written league listed
  rw [← outlasts.leagues] at there
  rw [upsertLeague_eq_self there writes]
  exact outlasts

include overlaid outlasts in
/-- A team that the catalog lists too stays with its sport. -/
theorem Outlasts.upsertTeam {team : NormalizedTeam}
    (agrees : ∀ other ∈ catalog.teams, other.key = team.key → other.sportKey = team.sportKey) :
    Outlasts catalog stored (upsertTeam db team) := by
  refine ⟨outlasts.sports, outlasts.leagues, ?_⟩
  rintro row member ⟨listed, among, same⟩
  by_cases here : row.key = team.key
  · obtain ⟨written, there, kept, rfl⟩ := overlaid.teams.written listed among
    obtain rfl := Table.eq_of_key there member same
    exact ⟨_, Table.mem_put_self _ _, here.symm, (agrees listed among here).symm⟩
  · obtain ⟨kept, there, named, linked⟩ := outlasts.teams row member ⟨listed, among, same⟩
    exact ⟨kept, Table.mem_put.mpr (.inr ⟨there, fun equal => here (named.symm.trans equal)⟩), named,
      linked⟩

include overlaid in
theorem keeps_repeatedCatalog {live : ProviderSnapshot} (repeats : Repeats catalog live)
    (outlasts : Outlasts catalog stored db) :
    Keeps (Outlasts catalog stored) (fun _ _ => True) (upsertCatalogFromSnapshot live) db :=
  keeps_catalogRows live
    (fun sport listed _ _ outlasts done =>
      outlasts.upsertSport overlaid (repeats.sports sport listed) done)
    (fun league listed _ outlasts => outlasts.upsertLeague overlaid (repeats.leagues league listed))
    (fun team listed _ outlasts => outlasts.upsertTeam overlaid (repeats.teams team listed))
    outlasts

include overlaid in
/-- A live tick whose snapshot repeats the catalog leaves the rows of the catalog alone. -/
theorem keeps_liveTick (runtime : Runtime) (now prestartMinutes : ℤ)
    (fetch : List String → Except Failure ProviderSnapshot)
    (repeats : ∀ live, fetch (liveSportKeys now prestartMinutes db) = .ok live →
      Repeats catalog live) (outlasts : Outlasts catalog stored db) :
    Keeps (Outlasts catalog stored) (fun _ _ => True)
      ((IngestRun.live now prestartMinutes (some fetch)).program runtime true) db := by
  refine Upholds.void ?_
  unfold ingestLiveTick
  refine Upholds.bind (Upholds.read outlasts) ?_
  rintro sportKeys after _ ⟨rfl, rfl⟩
  split
  · exact Upholds.pure outlasts trivial
  dsimp only
  split
  · exact Upholds.throw outlasts
  · next live fetched =>
      refine Upholds.bind (keeps_repeatedCatalog overlaid (repeats live fetched) outlasts)
        fun _ _ outlasts _ => ?_
      exact keeps_fixturesThenLive live (fun _ _ same outlasts => outlasts.of_same same) runtime false
        _ outlasts

end Rows

end Ticks

section Provider

/-- What a live tick is given: when it looks for live games, when it maps, and the answers. -/
structure LiveTick where
  startedAt : Time
  prestartMinutes : ℤ
  mappedAt : Time
  api : Api

variable (runtime : Runtime) (toUpperCase : Char → String) (config : OddsApi.EnvConfig)

def LiveTick.run (tick : LiveTick) : IngestRun :=
  .live tick.startedAt tick.prestartMinutes
    (some (fetchLiveSnapshot runtime toUpperCase config tick.mappedAt tick.api))

/-- The tick polls ingested keys, and the API said of them what they say themselves. -/
def LiveTick.Agrees (apiSports : List OddsApiSportEntry) (ingested : List String)
    (tick : LiveTick) (db : Database) : Prop :=
  let polled := liveSportKeys tick.startedAt tick.prestartMinutes db
  (∀ key ∈ polled, key ∈ ingested) ∧ Foreseen runtime toUpperCase apiSports ingested polled

variable {runtime toUpperCase config} {apiSports : List OddsApiSportEntry} {mappedAt : Time}
  {api : Api} {catalog : ProviderSnapshot}

theorem fetchSnapshot_eq (listed : api.fetchSports = .ok apiSports)
    (fetched : fetchSnapshot runtime config mappedAt api = .ok catalog) :
    catalog = buildSnapshot runtime config mappedAt api
      (resolveSportKeys config.ODDS_API_SPORT_KEYS apiSports) apiSports := by
  obtain ⟨_, _, fetched⟩ := Except.bind_eq_ok.mp fetched
  rw [listed] at fetched
  exact (Except.pure_eq_ok.mp fetched).symm

/-- The snapshot of an agreeing tick repeats the catalog. -/
theorem LiveTick.repeats (listed : api.fetchSports = .ok apiSports)
    (fetched : fetchSnapshot runtime config mappedAt api = .ok catalog) {tick : LiveTick}
    {db : Database} {live : ProviderSnapshot}
    (agrees : tick.Agrees runtime toUpperCase apiSports
      (resolveSportKeys config.ODDS_API_SPORT_KEYS apiSports) db)
    (answered : fetchLiveSnapshot runtime toUpperCase config tick.mappedAt tick.api
      (liveSportKeys tick.startedAt tick.prestartMinutes db) = .ok live) :
    Repeats catalog live := by
  unfold fetchLiveSnapshot at answered
  split at answered
  · rw [← Except.ok.inj answered]
    exact ⟨by simp [EMPTY_PROVIDER_SNAPSHOT], by simp [EMPTY_PROVIDER_SNAPSHOT],
      by simp [EMPTY_PROVIDER_SNAPSHOT]⟩
  · obtain ⟨_, _, answered⟩ := Except.bind_eq_ok.mp answered
    rw [fetchSnapshot_eq listed fetched, ← Except.pure_eq_ok.mp answered]
    exact repeats_of_foreseen agrees.2 (fun _ => exists_of_mem_resolveSportKeys) config mappedAt
      tick.mappedAt api tick.api agrees.1

variable (toUpperCase) in
/-- **The catalog outlasts the live ticks.** A catalog ingest that has returned is followed by
any number of ticks, each of which may stop anywhere. Where every tick agrees with what the API
said, the sports and the leagues stay as they are, and every team that the ingest wrote stays
with its sport. -/
theorem catalog_outlasts_liveTicks (listed : api.fetchSports = .ok apiSports)
    (fetched : fetchSnapshot runtime config mappedAt api = .ok catalog)
    {ingest : Session databaseMachine} {db : Database}
    (ingests : ingest.program =
      (IngestRun.catalog (fetchSnapshot runtime config mappedAt api)).program runtime true)
    (returned : ingest.Returned db) {ticks : List (Session databaseMachine)}
    (agree : Session.Each (fun db session => ∃ tick : LiveTick,
      session.program = (tick.run runtime toUpperCase config).program runtime true ∧
      tick.Agrees runtime toUpperCase apiSports
        (resolveSportKeys config.ODDS_API_SPORT_KEYS apiSports) db) ticks (ingest.result db)) :
    let stored := ingest.result db
    let after := Session.runAll ticks stored
    after.catalog.sports = stored.catalog.sports ∧
    after.catalog.leagues = stored.catalog.leagues ∧
    ∀ team ∈ stored.catalog.teams,
      team ∉ db.catalog.teams ∨ (∃ entry ∈ catalog.teams, entry.key = team.key) →
      ∃ row ∈ after.catalog.teams, row.key = team.key ∧ row.sport = team.sport := by
  intro stored after
  have rooted : Rooted catalog := by
    rw [fetchSnapshot_eq listed fetched]
    exact rooted_mapOddsApiToSnapshot ..
  have writes : Returns (fun _ after => Overlaid catalog db after) ingest.program db := by
    rw [ingests, fetched]
    exact catalog_writes runtime rooted
  have overlaid : Overlaid catalog db stored := (Upholds.result trivial writes).2 returned
  have step : ∀ (db : Database) (session : Session databaseMachine),
      Outlasts catalog stored db → (∃ tick : LiveTick,
      session.program = (tick.run runtime toUpperCase config).program runtime true ∧
      tick.Agrees runtime toUpperCase apiSports
        (resolveSportKeys config.ODDS_API_SPORT_KEYS apiSports) db) →
      Outlasts catalog stored (session.result db) := by
    rintro db ⟨_, moves⟩ outlasts ⟨tick, rfl, agrees⟩
    exact (Upholds.result outlasts (keeps_liveTick overlaid runtime tick.startedAt
      tick.prestartMinutes _ (fun live answered => tick.repeats listed fetched agrees answered)
      outlasts)).1
  have outlasts : Outlasts catalog stored after :=
    Session.runAll_preserves step (Outlasts.refl stored) agree
  refine ⟨outlasts.sports, outlasts.leagues, fun team member written => ?_⟩
  refine outlasts.teams team member ?_
  rcases written with new | entry
  · rcases overlaid.teams.origin team member with ⟨entry, among, kept, rfl⟩ | ⟨old, _⟩
    · exact ⟨entry, among, rfl⟩
    · exact absurd old new
  · exact entry

end Provider

section Sample

/-- One sport of the API with one game that has begun. -/
def oneSport (sport : OddsApiSportEntry) : Api where
  fetchSports := .ok [sport]
  fetchOdds _ _ _ := .ok [⟨"game", "0", "Rangers", "Bruins", []⟩]
  fetchScores _ := .ok []

def everySport : OddsApi.EnvConfig := ⟨some "key", ["all"], "all", ["h2h"]⟩

def asciiUpper (symbol : Char) : String := String.singleton symbol.toUpper

def ingestSport (sport : OddsApiSportEntry) : Session databaseMachine :=
  (IngestRun.catalog (fetchSnapshot asciiRuntime everySport 1 (oneSport sport))).session asciiRuntime
    true 40

def tickSport (sport : OddsApiSportEntry) : LiveTick := ⟨1, 0, 1, oneSport sport⟩

def runTick (sport : OddsApiSportEntry) : Session databaseMachine :=
  ((tickSport sport).run asciiRuntime asciiUpper everySport).session asciiRuntime true 40

def iceHockey : OddsApiSportEntry := ⟨⟨"icehockey_nhl", "Ice Hockey", "NHL"⟩, true, false⟩

def golf : OddsApiSportEntry := ⟨⟨"golf_masters", "Golf", "golf_masters"⟩, true, false⟩

/-- A tick that polls just what the ingest wrote makes up a sport of its own for it, names the
league by its key, and links the league and both teams to the new sport. -/
theorem liveTick_moves_league :
    let stored := (ingestSport iceHockey).result freshDatabase
    let after := (runTick iceHockey).result stored
    (ingestSport iceHockey).Returned freshDatabase ∧ (runTick iceHockey).Returned stored ∧
    liveSportKeys 1 0 stored = resolveSportKeys everySport.ODDS_API_SPORT_KEYS [iceHockey] ∧
    stored.catalog.sports.rows.map Sport.key = ["ice_hockey"] ∧
    after.catalog.sports.rows.map Sport.key = ["ice_hockey", "icehockey"] ∧
    stored.catalog.leagues.rows = [⟨"icehockey_nhl", "ice_hockey", "NHL", none, true⟩] ∧
    after.catalog.leagues.rows = [⟨"icehockey_nhl", "icehockey", "icehockey_nhl", none, true⟩] ∧
    stored.catalog.teams.rows.map Team.sport = ["ice_hockey", "ice_hockey"] ∧
    after.catalog.teams.rows.map Team.sport = ["icehockey", "icehockey"] := by
  decide +kernel

/-- Where the API gives a key for a title, and a group like the start of the key, two ticks
leave the catalog alone. -/
theorem golf_outlasts_ticks :
    let stored := (ingestSport golf).result freshDatabase
    let after := Session.runAll [runTick golf, runTick golf] stored
    after.catalog.sports = stored.catalog.sports ∧
    after.catalog.leagues = stored.catalog.leagues ∧
    ∀ team ∈ stored.catalog.teams,
      team ∉ freshDatabase.catalog.teams ∨ (∃ entry ∈ (buildSnapshot asciiRuntime everySport 1
        (oneSport golf) (resolveSportKeys everySport.ODDS_API_SPORT_KEYS [golf]) [golf]).teams,
          entry.key = team.key) →
      ∃ row ∈ after.catalog.teams, row.key = team.key ∧ row.sport = team.sport := by
  have keys : resolveSportKeys everySport.ODDS_API_SPORT_KEYS [golf] = ["golf_masters"] := by
    decide +kernel
  have foreseen : Foreseen asciiRuntime asciiUpper [golf] ["golf_masters"] ["golf_masters"] := by
    refine ⟨by decide +kernel, by decide +kernel, fun group key here first there => ?_⟩
    obtain rfl : key = "golf_masters" := by simpa using List.mem_of_find?_eq_some here
    obtain rfl : first = "golf_masters" := by simpa using List.mem_of_find?_eq_some there
    decide +kernel
  have agrees : ∀ db, liveSportKeys 1 0 db = ["golf_masters"] → ∃ tick : LiveTick,
      (runTick golf).program = (tick.run asciiRuntime asciiUpper everySport).program asciiRuntime
        true ∧
      tick.Agrees asciiRuntime asciiUpper [golf]
        (resolveSportKeys everySport.ODDS_API_SPORT_KEYS [golf]) db := by
    intro db polled
    refine ⟨tickSport golf, rfl, ?_⟩
    unfold LiveTick.Agrees
    rw [keys, show liveSportKeys (tickSport golf).startedAt (tickSport golf).prestartMinutes db =
      ["golf_masters"] from polled]
    exact ⟨fun _ => id, foreseen⟩
  have listed : (oneSport golf).fetchSports = .ok [golf] := rfl
  have fetched : fetchSnapshot asciiRuntime everySport 1 (oneSport golf) = .ok (buildSnapshot
      asciiRuntime everySport 1 (oneSport golf)
      (resolveSportKeys everySport.ODDS_API_SPORT_KEYS [golf]) [golf]) := rfl
  have returned : (ingestSport golf).Returned freshDatabase := by decide +kernel
  have first : liveSportKeys 1 0 ((ingestSport golf).result freshDatabase) = ["golf_masters"] := by
    decide +kernel
  have second : liveSportKeys 1 0 ((runTick golf).result
      ((ingestSport golf).result freshDatabase)) = ["golf_masters"] := by
    decide +kernel
  exact catalog_outlasts_liveTicks asciiUpper listed fetched rfl returned
    ⟨agrees _ first, agrees _ second, trivial⟩

end Sample

end SportsBetting.Ingestion
