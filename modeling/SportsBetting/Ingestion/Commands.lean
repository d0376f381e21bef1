import SportsBetting.Async.Replay
import SportsBetting.Ingestion.CatalogRows

/-!
# The commands of a run

What a run does is a list of commands, one for each member of the snapshot. The rows that a
loop reads beforehand are not written in the loop, so each command may look them up itself.
-/

namespace SportsBetting.Ingestion

open Async Replay Text

inductive Command
  | putSport (sport : NormalizedSport)
  | putLeague (league : NormalizedLeague)
  | putTeam (team : NormalizedTeam)
  | syncOffering (slug : String) (offered : List String)
  | putFixture (fixture : NormalizedFixture)
  | putEvent (event : NormalizedEvent)
  | putMarket (market : NormalizedMarket)
  | putSelection (selection : NormalizedSelection)

/-- The selection is written, and its odds are recorded where the stored price differs. -/
def priceSelection (db : Database) (selection : NormalizedSelection) : Except Failure Database := do
  let price ← newDecimal selection.price
  let written ← upsertSelection db selection
  let previous := (db.catalog.selections.get? selection.providerRef).map fun row => row.price.value
  if previous = some price then return written
  else createOddsSnapshot written selection.providerRef price

namespace Command

def perform (runtime : Runtime) : Command → Database → Except Failure Database
  | .putSport sport, db => upsertSport db sport
  | .putLeague league, db =>
      .ok (if league.sportKey ∈ db.catalog.sports.rows.map Sport.key then upsertLeague db league
        else db)
  | .putTeam team, db =>
      .ok (if team.sportKey ∈ db.catalog.sports.rows.map Sport.key then upsertTeam db team else db)
  | .syncOffering slug offered, db => .ok ((syncTenantLeagues slug offered).eval db).2
  | .putFixture fixture, db =>
      if fixture.leagueKey ∈ db.catalog.leagues.rows.map League.key ∧
          fixture.homeTeamKey ∈ db.catalog.teams.rows.map Team.key ∧
          fixture.awayTeamKey ∈ db.catalog.teams.rows.map Team.key then
        upsertFixture db fixture (runtime.dateParse fixture.startsAt)
      else .ok db
  | .putEvent event, db =>
      if event.fixtureProviderRef ∈ db.catalog.fixtures.rows.map Fixture.providerRef then do
        let written ← upsertEvent db event
        return closeEnded written event
      else .ok db
  | .putMarket market, db =>
      if market.eventProviderRef ∈ db.catalog.events.rows.map Event.providerRef then
        upsertMarket db market
      else .ok db
  | .putSelection selection, db =>
      if selection.marketProviderRef ∈ db.catalog.markets.rows.map Market.providerRef then
        priceSelection db selection
      else .ok db

/-- Commands of one phase write one table, which no later phase checks out of turn. -/
def phase : Command → ℕ
  | .putSport _ => 0
  | .putLeague _ => 1
  | .putTeam _ => 2
  | .syncOffering _ _ => 3
  | .putFixture _ => 4
  | .putEvent _ => 5
  | .putMarket _ => 6
  | .putSelection _ => 7

/-- The key of the row that is written. -/
def ref : Command → String
  | .putSport sport => sport.key
  | .putLeague league => league.key
  | .putTeam team => team.key
  | .syncOffering slug _ => slug
  | .putFixture fixture => fixture.providerRef
  | .putEvent event => event.providerRef
  | .putMarket market => market.providerRef
  | .putSelection selection => selection.providerRef

end Command

section Snapshots

variable (snapshot : ProviderSnapshot)

def catalogCommands : List Command :=
  snapshot.sports.map .putSport ++ (snapshot.leagues.map .putLeague ++ snapshot.teams.map .putTeam)

def offeringCommands : List Command :=
  [.syncOffering "acme" ACME_LEAGUE_PREFIXES, .syncOffering "betzone" BETZONE_LEAGUE_PREFIXES]

def liveCommands : List Command :=
  snapshot.events.map .putEvent ++ (snapshot.markets.map .putMarket ++
    snapshot.selections.map .putSelection)

end Snapshots

section Offering

variable {runtime : Runtime} {db : Database}

theorem OfferingOnly.refl (db : Database) : OfferingOnly db db :=
  ⟨_, db.audit, rfl⟩

theorem OfferingOnly.trans {first second third : Database} (former : OfferingOnly first second)
    (latter : OfferingOnly second third) : OfferingOnly first third := by
  obtain ⟨_, _, rfl⟩ := former
  obtain ⟨offering, audit, rfl⟩ := latter
  exact ⟨offering, audit, rfl⟩

/-- A loop whose every step returns, and moves on by a transitive relation. -/
theorem eval_forM {ι : Type} {moves : Database → Database → Prop} (refl : ∀ db, moves db db)
    (trans : ∀ first second third, moves first second → moves second third → moves first third)
    {body : ι → Service PUnit} (each : ∀ item db, ∃ after, (body item).eval db = (.ok (), after) ∧
      moves db after) (items : List ι) (db : Database) :
    ∃ after, (items.forM body).eval db = (.ok (), after) ∧ moves db after := by
  induction items generalizing db with
  | nil => exact ⟨db, rfl, refl db⟩
  | cons item rest ih =>
      obtain ⟨middle, first, moved⟩ := each item db
      obtain ⟨after, later, onward⟩ := ih middle
      refine ⟨after, ?_, trans _ _ _ moved onward⟩
      change (body item >>= fun _ => rest.forM body).eval db = _
      rw [Program.eval_bind, first]
      exact later

/-- The sync of a tenant always comes to its end, and writes only what the tenant offers. -/
theorem eval_syncTenantLeagues (slug : String) (offered : List String) (db : Database) :
    ∃ after, (syncTenantLeagues slug offered).eval db = (.ok (), after) ∧
      OfferingOnly db after := by
  unfold syncTenantLeagues read write
  rw [Program.eval_read_bind]
  cases db.catalog.casinoGroups.rows.find? fun group => group.slug = slug with
  | none => exact ⟨db, rfl, .refl db⟩
  | some group =>
      dsimp only
      rw [Program.eval_read_bind]
      apply eval_forM OfferingOnly.refl fun _ _ _ => OfferingOnly.trans
      intro league db
      rw [Program.eval_read_bind, Program.eval_write_bind]
      have offers := offeringOnly_upsertGroupLeague db group.id league
        (isLeagueOffered league offered)
      split
      · exact ⟨_, rfl, offers⟩
      · exact ⟨_, rfl, offers.trans (offeringOnly_recordAudit _ _)⟩

end Offering

section Bodies

variable {runtime : Runtime} {db : Database}

theorem performs_event (count : ℕ) (event : NormalizedEvent) :
    Performs (Command.perform runtime)
      (ingestEvent (db.catalog.fixtures.rows.map Fixture.providerRef) count event)
      [.putEvent event] db := by
  unfold ingestEvent
  split
  · next known =>
      unfold Performs attempt
      rw [Program.eval_void]
      cases done : upsertEvent db event with
      | error failure =>
          have rejected : Command.perform runtime (.putEvent event) db = .error failure := by
            rw [Command.perform, if_pos known, done]
            rfl
          rw [run_error rejected, Program.eval_attempt_bind_error done]
      | ok written =>
          have performed : Command.perform runtime (.putEvent event) db =
              .ok (closeEnded written event) := by
            rw [Command.perform, if_pos known, done]
            rfl
          rw [run_ok performed, Program.eval_attempt_bind_ok done]
          unfold closeIfEnded closeEnded
          by_cases past : event.status = .ended
          · rw [if_pos past, if_pos past]
            rfl
          · rw [if_neg past, if_neg past]
            rfl
  · next unknown => exact Performs.skip (by rw [Command.perform, if_neg unknown]) count

theorem performs_market (count : ℕ) (market : NormalizedMarket) :
    Performs (Command.perform runtime)
      (ingestMarket (db.catalog.events.rows.map Event.providerRef) count market)
      [.putMarket market] db := by
  unfold ingestMarket
  split
  · next known =>
      apply Performs.map
      exact Performs.attempt (by rw [Command.perform, if_pos known])
  · next unknown => exact Performs.skip (by rw [Command.perform, if_neg unknown]) count

/-- The prices that are read before the loop are the stored ones where they matter. -/
theorem performs_selection (counts : ℕ × ℕ) {selection : NormalizedSelection}
    {priceByRef : String → Option ℚ} (priced : priceByRef selection.providerRef =
      (db.catalog.selections.get? selection.providerRef).map fun row => row.price.value) :
    Performs (Command.perform runtime)
      (ingestSelection (db.catalog.markets.rows.map Market.providerRef) priceByRef counts selection)
      [.putSelection selection] db := by
  unfold ingestSelection
  split
  · next known =>
      have performed : Command.perform runtime (.putSelection selection) db =
          priceSelection db selection := by
        rw [Command.perform, if_pos known]
      unfold priceSelection at performed
      rw [← priced] at performed
      cases parsed : newDecimal selection.price with
      | error failure =>
          rw [parsed] at performed
          exact (run_error performed []).symm
      | ok price =>
          unfold Performs attempt
          rw [Program.eval_void]
          rw [parsed] at performed
          dsimp only
          cases done : upsertSelection db selection with
          | error failure =>
              rw [done] at performed
              rw [run_error performed, Program.eval_attempt_bind_error done]
          | ok written =>
              rw [done] at performed
              rw [Program.eval_attempt_bind_ok done]
              obtain ⟨column, rounded, _⟩ := upsertSelection_price parsed done
              have recorded : createOddsSnapshot written selection.providerRef price =
                  .ok { written with catalog.oddsSnapshots :=
                    written.catalog.oddsSnapshots ++ [⟨selection.providerRef, column⟩] } :=
                createOddsSnapshot_price rounded
              by_cases same : priceByRef selection.providerRef = some price
              · have kept : Command.perform runtime (.putSelection selection) db = .ok written :=
                  performed.trans (if_pos same)
                rw [run_ok kept, if_pos same]
                rfl
              · have noted := performed.trans ((if_neg same).trans recorded)
                rw [run_ok noted, if_neg same, Program.eval_attempt_bind_ok recorded]
                rfl
  · next unknown => exact Performs.skip (by rw [Command.perform, if_neg unknown]) counts

end Bodies

section Effects

variable {runtime : Runtime} {db after : Database}

theorem upsertSport_ok {sport : NormalizedSport} (done : upsertSport db sport = .ok after) :
    (∀ other ∈ db.catalog.sports, other.slug = sport.slug → other.key = sport.key) ∧
    ∃ row, WritesSport sport row ∧
      after = { db with catalog.sports := db.catalog.sports.put row } := by
  unfold upsertSport at done
  split at done
  · cases done
  · next free =>
      refine ⟨fun other stored same => ?_, _, ⟨_, rfl⟩, (Except.ok.inj done).symm⟩
      by_contra differs
      exact free (List.any_eq_true.mpr ⟨other, stored, by simp [same, differs]⟩)

/-- The row that an upsert makes of a listed fixture. -/
def WritesFixture (runtime : Runtime) (listed : NormalizedFixture) (row : Fixture) : Prop :=
  ∃ startsAt, runtime.dateParse listed.startsAt = some startsAt ∧
    row = ⟨listed.providerRef, listed.leagueKey, listed.homeTeamKey, listed.awayTeamKey, startsAt,
      listed.status⟩

theorem upsertFixture_ok {fixture : NormalizedFixture}
    (done : upsertFixture db fixture (runtime.dateParse fixture.startsAt) = .ok after) :
    ∃ row, WritesFixture runtime fixture row ∧
      after = { db with catalog.fixtures := db.catalog.fixtures.put row } := by
  unfold upsertFixture at done
  split at done
  · cases done
  · next startsAt dated => exact ⟨_, ⟨startsAt, dated, rfl⟩, (Except.ok.inj done).symm⟩

theorem priceSelection_ok {selection : NormalizedSelection}
    (done : priceSelection db selection = .ok after) :
    ∃ written odds, upsertSelection db selection = .ok written ∧
      after = { written with catalog.oddsSnapshots := odds } := by
  obtain ⟨number, _, done⟩ := Except.bind_eq_ok.mp done
  obtain ⟨written, upserted, done⟩ := Except.bind_eq_ok.mp done
  dsimp only at done
  split at done
  · obtain rfl := Except.pure_eq_ok.mp done
    exact ⟨written, written.catalog.oddsSnapshots, upserted, rfl⟩
  · obtain ⟨odds, rfl⟩ := createOddsSnapshot_ok done
    exact ⟨written, odds, upserted, rfl⟩

namespace Command

/-- The database has the rows that the command refers to. -/
def Known : Command → Database → Prop
  | .putLeague league, db => db.catalog.sports.Has league.sportKey
  | .putTeam team, db => db.catalog.sports.Has team.sportKey
  | .putFixture fixture, db => db.catalog.leagues.Has fixture.leagueKey ∧
      db.catalog.teams.Has fixture.homeTeamKey ∧ db.catalog.teams.Has fixture.awayTeamKey
  | .putEvent event, db => db.catalog.fixtures.Has event.fixtureProviderRef
  | .putMarket market, db => db.catalog.events.Has market.eventProviderRef
  | .putSelection selection, db => db.catalog.markets.Has selection.marketProviderRef
  | _, _ => True

/-- All that a command can do where it is not rejected. -/
inductive Effect (runtime : Runtime) : Command → Database → Database → Prop
  | skipped {command : Command} {db : Database} (unknown : ¬ command.Known db) :
      Effect runtime command db db
  | putSport {sport : NormalizedSport} {db : Database} {row : Sport}
      (writes : WritesSport sport row)
      (free : ∀ other ∈ db.catalog.sports, other.slug = sport.slug → other.key = sport.key) :
      Effect runtime (.putSport sport) db { db with catalog.sports := db.catalog.sports.put row }
  | putLeague {league : NormalizedLeague} {db : Database} {row : League}
      (writes : WritesLeague league row) : Effect runtime (.putLeague league) db
        { db with catalog.leagues := db.catalog.leagues.put row }
  | putTeam {team : NormalizedTeam} {db : Database} {row : Team} (writes : WritesTeam team row) :
      Effect runtime (.putTeam team) db { db with catalog.teams := db.catalog.teams.put row }
  | syncOffering {slug : String} {offered : List String} {db after : Database}
      (only : OfferingOnly db after) : Effect runtime (.syncOffering slug offered) db after
  | putFixture {fixture : NormalizedFixture} {db : Database} {row : Fixture}
      (writes : WritesFixture runtime fixture row) : Effect runtime (.putFixture fixture) db
        { db with catalog.fixtures := db.catalog.fixtures.put row }
  | putEvent {event : NormalizedEvent} {db written : Database}
      (done : upsertEvent db event = .ok written) :
      Effect runtime (.putEvent event) db (closeEnded written event)
  | putMarket {market : NormalizedMarket} {db after : Database}
      (done : upsertMarket db market = .ok after) : Effect runtime (.putMarket market) db after
  | putSelection {selection : NormalizedSelection} {db written : Database}
      (odds : List OddsSnapshot) (known : db.catalog.markets.Has selection.marketProviderRef)
      (done : upsertSelection db selection = .ok written) :
      Effect runtime (.putSelection selection) db { written with catalog.oddsSnapshots := odds }

theorem effect {command : Command} (done : command.perform runtime db = .ok after) :
    command.Effect runtime db after := by
  cases command with
  | putSport sport =>
      obtain ⟨free, row, writes, rfl⟩ := upsertSport_ok done
      exact .putSport writes free
  | putLeague league =>
      obtain rfl := Except.ok.inj done
      split
      · exact .putLeague ⟨_, _, rfl⟩
      · next unknown => exact .skipped (mt (mem_map_iff_has _ _).mpr unknown)
  | putTeam team =>
      obtain rfl := Except.ok.inj done
      split
      · exact .putTeam ⟨_, rfl⟩
      · next unknown => exact .skipped (mt (mem_map_iff_has _ _).mpr unknown)
  | syncOffering slug offered =>
      obtain ⟨synced, evaluated, only⟩ := eval_syncTenantLeagues slug offered db
      obtain rfl := Except.ok.inj done
      rw [evaluated]
      exact .syncOffering only
  | putFixture fixture =>
      rw [perform, Except.ite_eq_ok] at done
      simp only [mem_map_iff_has] at done
      rcases done with ⟨_, upserted⟩ | ⟨unknown, rfl⟩
      · obtain ⟨row, writes, rfl⟩ := upsertFixture_ok upserted
        exact .putFixture writes
      · exact .skipped unknown
  | putEvent event =>
      rw [perform, Except.ite_eq_ok, mem_map_iff_has] at done
      rcases done with ⟨_, done⟩ | ⟨unknown, rfl⟩
      · obtain ⟨written, upserted, closed⟩ := Except.bind_eq_ok.mp done
        obtain rfl := Except.pure_eq_ok.mp closed
        exact .putEvent upserted
      · exact .skipped unknown
  | putMarket market =>
      rw [perform, Except.ite_eq_ok, mem_map_iff_has] at done
      rcases done with ⟨_, upserted⟩ | ⟨unknown, rfl⟩
      · exact .putMarket upserted
      · exact .skipped unknown
  | putSelection selection =>
      rw [perform, Except.ite_eq_ok, mem_map_iff_has] at done
      rcases done with ⟨known, priced⟩ | ⟨unknown, rfl⟩
      · obtain ⟨written, odds, upserted, rfl⟩ := priceSelection_ok priced
        exact .putSelection odds known upserted
      · exact .skipped unknown

end Command

end Effects

section Frame

variable {runtime : Runtime} {db after : Database}

/-- What a command of the phase does not write. -/
structure Untouched (phase : ℕ) (db after : Database) : Prop where
  sports : 0 < phase → after.catalog.sports = db.catalog.sports
  leagues : 1 < phase → after.catalog.leagues = db.catalog.leagues
  teams : 2 < phase → after.catalog.teams = db.catalog.teams
  fixtures : 4 < phase → after.catalog.fixtures = db.catalog.fixtures
  events : 5 < phase → after.catalog.events = db.catalog.events
  markets : 6 < phase → after.catalog.markets = db.catalog.markets

theorem closeEnded_eq (db : Database) (event : NormalizedEvent) :
    ∃ markets selections, closeEnded db event =
      { db with catalog.markets := markets, catalog.selections := selections } := by
  unfold closeEnded
  split
  · exact ⟨_, _, rfl⟩
  · exact ⟨_, _, rfl⟩

theorem Command.Effect.untouched {command : Command} (effect : command.Effect runtime db after) :
    Untouched command.phase db after := by
  cases effect with
  | skipped unknown =>
      exact ⟨fun _ => rfl, fun _ => rfl, fun _ => rfl, fun _ => rfl, fun _ => rfl, fun _ => rfl⟩
  | putSport writes free =>
      constructor
      · exact fun later => absurd later (Nat.lt_irrefl _)
      all_goals exact fun _ => rfl
  | putLeague writes =>
      constructor
      · exact fun _ => rfl
      · exact fun later => absurd later (Nat.lt_irrefl _)
      all_goals exact fun _ => rfl
  | putTeam writes =>
      constructor
      · exact fun _ => rfl
      · exact fun _ => rfl
      · exact fun later => absurd later (Nat.lt_irrefl _)
      all_goals exact fun _ => rfl
  | syncOffering only =>
      obtain ⟨offering, audit, rfl⟩ := only
      exact ⟨fun _ => rfl, fun _ => rfl, fun _ => rfl, fun _ => rfl, fun _ => rfl, fun _ => rfl⟩
  | putFixture writes =>
      constructor
      · exact fun _ => rfl
      · exact fun _ => rfl
      · exact fun _ => rfl
      · exact fun later => absurd later (Nat.lt_irrefl _)
      all_goals exact fun _ => rfl
  | @putEvent event db written done =>
      obtain rfl := upsertEvent_ok done
      obtain ⟨markets, selections, same⟩ := closeEnded_eq
        { db with catalog.events := db.catalog.events.put (eventRow event) } event
      rw [same]
      constructor
      case events => exact fun later => absurd later (Nat.lt_irrefl _)
      case markets => exact fun later => absurd later (Nat.not_lt.mpr (Nat.le_succ 5))
      all_goals exact fun _ => rfl
  | putMarket done =>
      obtain ⟨row, _, rfl⟩ := upsertMarket_writes done
      constructor
      case markets => exact fun later => absurd later (Nat.lt_irrefl _)
      all_goals exact fun _ => rfl
  | putSelection odds known done =>
      obtain ⟨row, _, rfl⟩ := upsertSelection_writes done
      exact ⟨fun _ => rfl, fun _ => rfl, fun _ => rfl, fun _ => rfl, fun _ => rfl, fun _ => rfl⟩

end Frame

section Phases

variable {runtime : Runtime} (snapshot : ProviderSnapshot) (db : Database)

/-- Leagues and teams are written after the sports. -/
theorem same_sports {command : Command} {now after : Database} (later : 0 < command.phase)
    (done : command.perform runtime now = .ok after)
    (same : now.catalog.sports = db.catalog.sports) : after.catalog.sports = db.catalog.sports :=
  ((Command.effect done).untouched.sports later).trans same

theorem performs_catalog :
    Performs (Command.perform runtime) (upsertCatalogFromSnapshot snapshot)
      (catalogCommands snapshot) db := by
  unfold upsertCatalogFromSnapshot catalogCommands
  apply Performs.bind
  · apply Performs.forM (fun _ _ => True) (fun _ _ _ _ _ _ => trivial) _ trivial
    exact fun sport _ _ _ => Performs.attempt rfl
  intro _ db _
  apply Performs.read
  apply Performs.bind
  · apply Performs.forM (fun _ now => now.catalog.sports = db.catalog.sports) _ _ rfl
    · exact fun league _ now after same done => same_sports db (by simp [Command.phase]) done same
    · intro league _ now same
      rw [← same]
      split
      · next known => exact Performs.write (by rw [Command.perform, if_pos known])
      · next unknown => exact Performs.skip (by rw [Command.perform, if_neg unknown]) _
  intro _ later ran
  have sports : later.catalog.sports = db.catalog.sports := by
    have each : ∀ command ∈ snapshot.leagues.map Command.putLeague, ∀ now after,
        now.catalog.sports = db.catalog.sports → command.perform runtime now = .ok after →
        after.catalog.sports = db.catalog.sports := by
      intro command listed now after same done
      obtain ⟨league, _, rfl⟩ := List.mem_map.mp listed
      exact same_sports db (by simp [Command.phase]) done same
    have kept : (run (Command.perform runtime) (snapshot.leagues.map .putLeague) db).2.catalog.sports =
        db.catalog.sports := run_preserves each rfl
    rwa [ran] at kept
  apply Performs.forM (fun _ now => now.catalog.sports = db.catalog.sports) _ _ sports
  · exact fun team _ now after same done => same_sports db (by simp [Command.phase]) done same
  · intro team _ now same
    rw [← same]
    split
    · next known => exact Performs.write (by rw [Command.perform, if_pos known])
    · next unknown => exact Performs.skip (by rw [Command.perform, if_neg unknown]) _

theorem performs_offering (slug : String) (offered : List String) :
    Performs (Command.perform runtime) (syncTenantLeagues slug offered)
      [.syncOffering slug offered] db := by
  obtain ⟨after, evaluated, _⟩ := eval_syncTenantLeagues slug offered db
  have performed : Command.perform runtime (.syncOffering slug offered) db = .ok after := by
    rw [Command.perform, evaluated]
  unfold Performs
  rw [run_ok performed, Program.eval_void, evaluated]
  rfl

/-- The odds provider purges nothing. -/
theorem performs_fixtures (purgeStale : Bool) :
    Performs (Command.perform runtime) (upsertFixturesFromSnapshot runtime true snapshot purgeStale)
      (snapshot.fixtures.map .putFixture) db := by
  unfold upsertFixturesFromSnapshot
  apply Performs.read
  apply Performs.read
  simp only [Bool.or_true, if_true]
  apply Performs.map _ id
  apply Performs.foldlM (fun _ now => now.catalog.leagues = db.catalog.leagues ∧
    now.catalog.teams = db.catalog.teams) _ _ ⟨rfl, rfl⟩
  · rintro fixture _ now after ⟨leagues, teams⟩ done
    have untouched := (Command.effect done).untouched
    exact ⟨(untouched.leagues (by simp [Command.phase])).trans leagues,
      (untouched.teams (by simp [Command.phase])).trans teams⟩
  · rintro fixture _ count now ⟨leagues, teams⟩
    rw [← leagues, ← teams]
    split
    · next known =>
        apply Performs.map
        exact Performs.attempt (by rw [Command.perform, if_pos known])
    · next unknown => exact Performs.skip (by rw [Command.perform, if_neg unknown]) count

/-- Each selection is listed once, so its price is still the one read before the loop. -/
theorem performs_live (once : (snapshot.selections.map NormalizedSelection.providerRef).Nodup) :
    Performs (Command.perform runtime) (ingestLiveData snapshot) (liveCommands snapshot) db := by
  unfold ingestLiveData liveCommands
  apply Performs.read
  apply Performs.bind
  · apply Performs.foldlM (fun _ now => now.catalog.fixtures = db.catalog.fixtures) _ _ rfl
    · intro event _ now after same done
      exact ((Command.effect done).untouched.fixtures (by simp [Command.phase])).trans same
    · intro event _ count now same
      rw [← same]
      exact performs_event count event
  intro _ db _
  apply Performs.read
  apply Performs.bind
  · apply Performs.foldlM (fun _ now => now.catalog.events = db.catalog.events) _ _ rfl
    · intro market _ now after same done
      exact ((Command.effect done).untouched.events (by simp [Command.phase])).trans same
    · intro market _ count now same
      rw [← same]
      exact performs_market count market
  intro _ db _
  apply Performs.read
  apply Performs.read
  apply Performs.map
  apply Performs.foldlM (fun rest now => now.catalog.markets = db.catalog.markets ∧
    (rest.map NormalizedSelection.providerRef).Nodup ∧ ∀ selection ∈ rest,
      now.catalog.selections.get? selection.providerRef =
        db.catalog.selections.get? selection.providerRef) _ _ ⟨rfl, once, fun _ _ => rfl⟩
  · rintro selection rest now after ⟨markets, once, unread⟩ done
    obtain ⟨fresh, later⟩ := List.nodup_cons.mp once
    have effect := Command.effect done
    refine ⟨(effect.untouched.markets (by simp [Command.phase])).trans markets, later, ?_⟩
    intro other member
    have before := unread other (List.mem_cons_of_mem _ member)
    cases effect with
    | skipped _ => exact before
    | putSelection odds _ upserted =>
        obtain ⟨row, writes, rfl⟩ := upsertSelection_writes upserted
        have differs : row.providerRef ≠ other.providerRef := by
          obtain ⟨_, _, _, _, rfl⟩ := writes
          exact fun same => fresh (List.mem_map.mpr ⟨other, member, same.symm⟩)
        dsimp only
        rw [Table.get?_put, if_neg differs]
        exact before
  · rintro selection rest counts now ⟨markets, _, unread⟩
    rw [← markets]
    apply performs_selection counts
    rw [unread selection List.mem_cons_self]

/-- What follows the catalog of a run. -/
theorem performs_fixturesThenLive {α : Type} (purgeStale : Bool) (summary : ℕ → LiveCounts → α)
    (once : (snapshot.selections.map NormalizedSelection.providerRef).Nodup) :
    Performs (Command.perform runtime) (do
      let fixtureCount ← upsertFixturesFromSnapshot runtime true snapshot purgeStale
      let live ← ingestLiveData snapshot
      pure (summary fixtureCount live))
      (snapshot.fixtures.map .putFixture ++ liveCommands snapshot) db := by
  apply Performs.bind (performs_fixtures snapshot db purgeStale)
  intro fixtureCount db _
  apply Performs.map
  exact performs_live snapshot db once

end Phases

namespace IngestRun

/-- The run, started on the database, ingests the snapshot. -/
def Ingests : IngestRun → Database → ProviderSnapshot → Prop
  | .results given, _, snapshot => given = snapshot
  | run, db, snapshot => run.Applies db snapshot

def commands (snapshot : ProviderSnapshot) : IngestRun → List Command
  | .catalog _ => catalogCommands snapshot ++
      (offeringCommands ++ (snapshot.fixtures.map .putFixture ++ liveCommands snapshot))
  | .live _ _ _ => catalogCommands snapshot ++
      (snapshot.fixtures.map .putFixture ++ liveCommands snapshot)
  | .results _ => liveCommands snapshot

variable {runtime : Runtime} {db : Database} {snapshot : ProviderSnapshot}

/-- **A run is its commands.** -/
theorem performs_program (run : IngestRun)
    (once : (snapshot.selections.map NormalizedSelection.providerRef).Nodup)
    (ingests : run.Ingests db snapshot) :
    Performs (Command.perform runtime) (run.program runtime true) (run.commands snapshot) db := by
  cases run with
  | catalog fetched =>
      obtain rfl : fetched = .ok snapshot := ingests
      apply Performs.map _ fun _ => ()
      apply Performs.bind (performs_catalog snapshot db)
      intro _ db _
      apply Performs.bind (performs_offering db "acme" ACME_LEAGUE_PREFIXES)
      intro _ db _
      apply Performs.bind (performs_offering db "betzone" BETZONE_LEAGUE_PREFIXES)
      intro _ db _
      exact performs_fixturesThenLive snapshot db true (buildSummary snapshot) once
  | live now prestartMinutes fetchLiveSnapshot =>
      cases fetchLiveSnapshot with
      | none => exact ingests.elim
      | some fetch =>
          obtain ⟨scope, fetched⟩ := ingests
          apply Performs.map _ fun _ => ()
          apply Performs.read
          rw [if_neg (by simpa using scope)]
          dsimp only
          rw [fetched]
          dsimp only
          apply Performs.bind (performs_catalog snapshot db)
          intro _ db _
          exact performs_fixturesThenLive snapshot db false
            (fun count live => some (buildSummary snapshot count live)) once
  | results given =>
      obtain rfl : given = snapshot := ingests
      exact (performs_live given db once).map fun _ => ()

end IngestRun

end SportsBetting.Ingestion
