import SportsBetting.Ingestion.Commands
import SportsBetting.Ingestion.Ended
import SportsBetting.Ingestion.Lifecycle

/-!
# Ingesting a snapshot again

Every row of the catalog stands as the last command on it left it, closed markets included.
So the same commands once more find it as they would write it.
-/

namespace SportsBetting.Ingestion

open Async Numeral OddsApi Replay Text

section Rows

/-- The seven tables that ingestion writes are the same. -/
structure SameRows (db after : Database) : Prop where
  sports : after.catalog.sports = db.catalog.sports
  leagues : after.catalog.leagues = db.catalog.leagues
  teams : after.catalog.teams = db.catalog.teams
  fixtures : after.catalog.fixtures = db.catalog.fixtures
  events : after.catalog.events = db.catalog.events
  markets : after.catalog.markets = db.catalog.markets
  selections : after.catalog.selections = db.catalog.selections

theorem SameRows.refl (db : Database) : SameRows db db :=
  ⟨rfl, rfl, rfl, rfl, rfl, rfl, rfl⟩

theorem SameRows.trans {first second third : Database} (former : SameRows first second)
    (latter : SameRows second third) : SameRows first third where
  sports := latter.sports.trans former.sports
  leagues := latter.leagues.trans former.leagues
  teams := latter.teams.trans former.teams
  fixtures := latter.fixtures.trans former.fixtures
  events := latter.events.trans former.events
  markets := latter.markets.trans former.markets
  selections := latter.selections.trans former.selections

/-- All prices have at most three decimals. -/
def Exact (snapshot : ProviderSnapshot) : Prop :=
  ∀ selection ∈ snapshot.selections, ∀ number, newDecimal selection.price = .ok number →
    HasDecimals 3 number

/-- The same rows, and where no price is rounded the same odds history. -/
structure Alike (snapshot : ProviderSnapshot) (db after : Database) : Prop where
  rows : SameRows db after
  odds : Exact snapshot → after.catalog.oddsSnapshots = db.catalog.oddsSnapshots

variable {snapshot : ProviderSnapshot}

theorem Alike.refl (db : Database) : Alike snapshot db db := ⟨.refl db, fun _ => rfl⟩

theorem Alike.trans {first second third : Database} (former : Alike snapshot first second)
    (latter : Alike snapshot second third) : Alike snapshot first third where
  rows := former.rows.trans latter.rows
  odds exact_ := (latter.odds exact_).trans (former.odds exact_)

end Rows

section Rejections

variable {runtime : Runtime} {db other : Database}

/-- What an upsert asks of an event. -/
structure Accepted (db : Database) (event : NormalizedEvent) : Prop where
  homeScore : fitsInt event.homeScore = true
  awayScore : fitsInt event.awayScore = true
  hosted : db.catalog.fixtures.Has event.fixtureProviderRef
  alone : ∀ other ∈ db.catalog.events, other.fixture = event.fixtureProviderRef →
    other.providerRef = event.providerRef

theorem accepted_of_upsertEvent {event : NormalizedEvent}
    (done : upsertEvent db event = .ok other) : Accepted db event := by
  have hosted := has_fixture_of_upsertEvent done
  unfold upsertEvent at done
  split_ifs at done with scores _ taken
  simp only [Bool.or_eq_true, Bool.not_eq_true', not_or, Bool.not_eq_false] at scores
  refine ⟨scores.1, scores.2, hosted, fun row stored same => ?_⟩
  by_contra differs
  exact taken (List.any_eq_true.mpr ⟨row, stored, by simp [same, differs]⟩)

theorem Accepted.upsertEvent {event : NormalizedEvent} (accepted : Accepted db event) :
    upsertEvent db event =
      .ok { db with catalog.events := db.catalog.events.put (eventRow event) } := by
  obtain ⟨fixture, hosts⟩ : ∃ fixture, db.catalog.fixtures.get? event.fixtureProviderRef =
      some fixture := by
    obtain ⟨fixture, stored, named⟩ := accepted.hosted
    exact ⟨fixture, Table.get?_eq_some_iff.mpr ⟨stored, named⟩⟩
  have free : (db.catalog.events.rows.any fun other =>
      other.fixture = event.fixtureProviderRef && other.providerRef ≠ event.providerRef) = false := by
    rw [List.any_eq_false]
    intro row stored
    have same := accepted.alone row stored
    simpa using same
  unfold Ingestion.upsertEvent
  rw [accepted.homeScore, accepted.awayScore, hosts, free]
  rfl

theorem upsertEvent_error {event : NormalizedEvent} {failure : Failure}
    (same : SameRows db other) (rejected : upsertEvent db event = .error failure) :
    upsertEvent other event = .error failure := by
  unfold upsertEvent at rejected ⊢
  rw [same.fixtures, same.events]
  split_ifs at rejected ⊢
  · exact rejected
  · exact rejected
  · exact rejected

theorem upsertSelection_error {selection : NormalizedSelection} {failure : Failure}
    (rejected : upsertSelection db selection = .error failure) (other : Database) :
    upsertSelection other selection = .error failure := by
  unfold upsertSelection at rejected ⊢
  rw [Except.bind_eq_error] at rejected ⊢
  refine rejected.imp_right ?_
  rintro ⟨number, parsed, rejected⟩
  refine ⟨number, parsed, ?_⟩
  rw [Except.bind_eq_error] at rejected ⊢
  rcases rejected with unfit | ⟨_, _, impossible⟩
  · exact .inl unfit
  · cases impossible

/-- Whether a selection can be written does not depend on what is stored. -/
theorem priceSelection_error {selection : NormalizedSelection} {failure : Failure}
    (rejected : priceSelection db selection = .error failure) (other : Database) :
    priceSelection other selection = .error failure := by
  unfold priceSelection at rejected ⊢
  rw [Except.bind_eq_error] at rejected ⊢
  refine rejected.imp_right ?_
  rintro ⟨number, parsed, rejected⟩
  refine ⟨number, parsed, ?_⟩
  rw [Except.bind_eq_error] at rejected ⊢
  rcases rejected with unfit | ⟨written, done, rejected⟩
  · exact .inl (upsertSelection_error unfit other)
  · -- A price that fits the column of the selection fits the one of the odds.
    obtain ⟨column, rounded, _⟩ := upsertSelection_price parsed done
    dsimp only at rejected
    rw [createOddsSnapshot_price rounded] at rejected
    split at rejected
    · cases rejected
    · cases rejected

theorem Command.fails {command : Command} {failure : Failure} (same : SameRows db other)
    (rejected : command.perform runtime db = .error failure) :
    command.perform runtime other = .error failure := by
  cases command with
  | putSport sport =>
      rw [Command.perform] at rejected ⊢
      unfold upsertSport at rejected ⊢
      rw [same.sports]
      split_ifs at rejected ⊢
      exact rejected
  | putLeague league => cases rejected
  | putTeam team => cases rejected
  | syncOffering slug offered => cases rejected
  | putFixture fixture =>
      rw [Command.perform] at rejected ⊢
      rw [same.leagues, same.teams]
      split_ifs at rejected ⊢
      unfold upsertFixture at rejected ⊢
      split at rejected
      · exact rejected
      · cases rejected
  | putEvent event =>
      rw [Command.perform] at rejected ⊢
      rw [same.fixtures]
      split_ifs at rejected ⊢
      rw [Except.bind_eq_error] at rejected ⊢
      rcases rejected with unfit | ⟨_, _, impossible⟩
      · exact .inl (upsertEvent_error same unfit)
      · cases impossible
  | putMarket market =>
      rw [Command.perform] at rejected ⊢
      rw [same.events]
      split_ifs at rejected ⊢
      unfold upsertMarket at rejected ⊢
      cases column : lineColumn market.line with
      | error _ =>
          rw [column] at rejected
          exact rejected
      | ok line =>
          rw [column] at rejected
          cases rejected
  | putSelection selection =>
      rw [Command.perform] at rejected ⊢
      rw [same.markets]
      split_ifs at rejected ⊢
      exact priceSelection_error rejected other

end Rejections

section Finished

variable {runtime : Runtime} {db after other : Database}

theorem Settled.of_same {eventRef : String} (settled : Settled db eventRef) (same : SameRows db other) :
    Settled other eventRef where
  markets := by
    rw [same.markets]
    exact settled.markets
  selections := by
    unfold selectionOfEvent
    rw [same.markets, same.selections]
    exact settled.selections

namespace Command

/-- The rows of the command are as it leaves them. -/
def Written (runtime : Runtime) : Command → Database → Prop
  | .putSport sport, db => (∃ row ∈ db.catalog.sports, WritesSport sport row) ∧
      ∀ other ∈ db.catalog.sports, other.slug = sport.slug → other.key = sport.key
  | .putLeague league, db => ∃ row ∈ db.catalog.leagues, WritesLeague league row
  | .putTeam team, db => ∃ row ∈ db.catalog.teams, WritesTeam team row
  | .syncOffering _ _, _ => True
  | .putFixture fixture, db => ∃ row ∈ db.catalog.fixtures, WritesFixture runtime fixture row
  | .putEvent event, db => Accepted db event ∧ eventRow event ∈ db.catalog.events ∧
      (event.status = .ended → Settled db event.providerRef)
  | .putMarket market, db => ∃ row ∈ db.catalog.markets, WritesMarket market row
  | .putSelection selection, db => ∃ row ∈ db.catalog.selections, WritesSelection selection row

/-- The command has been performed, or is one that is skipped. -/
def Finished (runtime : Runtime) (command : Command) (db : Database) : Prop :=
  command.Known db → command.Written runtime db

theorem known_congr {command : Command} (same : SameRows db other) :
    command.Known other ↔ command.Known db := by
  cases command with
  | putSport _ => exact Iff.rfl
  | syncOffering _ _ => exact Iff.rfl
  | putLeague league => rw [Known, Known, same.sports]
  | putTeam team => rw [Known, Known, same.sports]
  | putFixture fixture => rw [Known, Known, same.leagues, same.teams]
  | putEvent event => rw [Known, Known, same.fixtures]
  | putMarket market => rw [Known, Known, same.events]
  | putSelection selection => rw [Known, Known, same.markets]

theorem Written.congr {command : Command} (same : SameRows db other)
    (written : command.Written runtime db) : command.Written runtime other := by
  cases command with
  | putSport sport =>
      rw [Written, same.sports]
      exact written
  | putLeague league =>
      rw [Written, same.leagues]
      exact written
  | putTeam team =>
      rw [Written, same.teams]
      exact written
  | syncOffering _ _ => trivial
  | putFixture fixture =>
      rw [Written, same.fixtures]
      exact written
  | putEvent event =>
      obtain ⟨accepted, stored, closed⟩ := written
      refine ⟨⟨accepted.homeScore, accepted.awayScore, ?_, ?_⟩, ?_, ?_⟩
      · rw [same.fixtures]
        exact accepted.hosted
      · rw [same.events]
        exact accepted.alone
      · rw [same.events]
        exact stored
      · exact fun past => (closed past).of_same same
  | putMarket market =>
      rw [Written, same.markets]
      exact written
  | putSelection selection =>
      rw [Written, same.selections]
      exact written

theorem Finished.congr {command : Command} (same : SameRows db other)
    (finished : command.Finished runtime db) : command.Finished runtime other :=
  fun known => (finished ((known_congr same).mp known)).congr same

theorem finishes {command : Command} (effect : command.Effect runtime db after) :
    command.Finished runtime after := by
  cases effect with
  | skipped unknown => exact fun known => absurd known unknown
  | putSport writes free =>
      intro _
      refine ⟨⟨_, Table.mem_put_self _ _, writes⟩, ?_⟩
      intro other stored same
      rcases Table.mem_put.mp stored with rfl | ⟨old, _⟩
      · obtain ⟨_, rfl⟩ := writes
        rfl
      · exact free other old same
  | putLeague writes => exact fun _ => ⟨_, Table.mem_put_self _ _, writes⟩
  | putTeam writes => exact fun _ => ⟨_, Table.mem_put_self _ _, writes⟩
  | syncOffering _ => exact fun _ => trivial
  | putFixture writes => exact fun _ => ⟨_, Table.mem_put_self _ _, writes⟩
  | @putEvent event db written done =>
      intro _
      have accepted := accepted_of_upsertEvent done
      obtain rfl := upsertEvent_ok done
      refine ⟨⟨accepted.homeScore, accepted.awayScore, ?_, ?_⟩, ?_, ?_⟩
      · rw [closeEnded_fixtures]
        exact accepted.hosted
      · rw [closeEnded_events]
        intro other stored same
        rcases Table.mem_put.mp stored with rfl | ⟨old, _⟩
        · rfl
        · exact accepted.alone other old same
      · rw [closeEnded_events]
        exact Table.mem_put_self _ _
      · intro past
        unfold closeEnded
        rw [if_pos past]
        exact settled_of_closing _ _
  | putMarket done =>
      obtain ⟨row, writes, rfl⟩ := upsertMarket_writes done
      exact fun _ => ⟨row, Table.mem_put_self _ _, writes⟩
  | putSelection odds _ done =>
      obtain ⟨row, writes, rfl⟩ := upsertSelection_writes done
      exact fun _ => ⟨row, Table.mem_put_self _ _, writes⟩

end Command

end Finished

section Still

variable {runtime : Runtime} {db : Database} {snapshot : ProviderSnapshot}

theorem settleMarkets_eq_self {eventRef : String} (settled : Settled db eventRef) :
    settleMarkets db eventRef = db := by
  unfold settleMarkets
  rw [Table.updateWhere_eq_self]
  intro market stored of
  rw [← settled.markets market stored (by simpa using of)]

theorem settleSelections_eq_self {eventRef : String} (settled : Settled db eventRef) :
    settleSelections db eventRef = db := by
  unfold settleSelections
  rw [Table.updateWhere_eq_self]
  intro selection stored of
  rw [← settled.selections selection stored of]

theorem closeEnded_eq_self {event : NormalizedEvent}
    (closed : event.status = .ended → Settled db event.providerRef) : closeEnded db event = db := by
  unfold closeEnded
  split
  · next past =>
      rw [settleMarkets_eq_self (closed past), settleSelections_eq_self (closed past)]
  · rfl

theorem upsertSport_eq_self {sport : NormalizedSport}
    (written : (Command.putSport sport).Written runtime db) : upsertSport db sport = .ok db := by
  obtain ⟨⟨row, stored, active, same⟩, free⟩ := written
  have unclaimed : ¬ (db.catalog.sports.rows.any fun other =>
      other.slug = sport.slug && other.key ≠ sport.key) = true := by
    intro claimed
    obtain ⟨other, there, clash⟩ := List.any_eq_true.mp claimed
    simp only [Bool.and_eq_true, decide_eq_true_eq] at clash
    exact clash.2 (free other there clash.1)
  have found : db.catalog.sports.get? sport.key = some row := by
    rw [Table.get?_eq_some_iff]
    exact ⟨stored, by rw [same]⟩
  unfold upsertSport
  rw [if_neg unclaimed, found]
  dsimp only [Option.map_some, Option.getD_some]
  rw [same] at stored ⊢
  rw [Table.put_eq_self stored]

/-- Odds are recorded again only where the price was rounded. -/
theorem priceSelection_again {selection : NormalizedSelection} {row : Selection}
    (listed : selection ∈ snapshot.selections) (stored : row ∈ db.catalog.selections)
    (writes : WritesSelection selection row) :
    ∃ after, priceSelection db selection = .ok after ∧ Alike snapshot db after := by
  obtain ⟨number, price, parsed, column, rfl⟩ := writes
  have found : db.catalog.selections.get? selection.providerRef =
      some (selectionRow selection price) := Table.get?_of_mem stored
  have upserted : upsertSelection db selection = .ok db := by
    unfold upsertSelection
    rw [parsed]
    change (toColumn number >>= _) = _
    rw [column]
    change Except.ok { db with catalog.selections := _ } = _
    rw [Table.put_eq_self stored]
  unfold priceSelection
  rw [parsed]
  change ∃ after, (upsertSelection db selection >>= _) = _ ∧ _
  rw [upserted, found]
  change ∃ after, (if some price.value = some number then .ok db
    else createOddsSnapshot db selection.providerRef number) = Except.ok after ∧ _
  by_cases kept : price.value = number
  · exact ⟨db, if_pos (congrArg some kept), .refl db⟩
  · refine ⟨_, (if_neg fun same => kept (Option.some.inj same)).trans
      (createOddsSnapshot_price column), ⟨rfl, rfl, rfl, rfl, rfl, rfl, rfl⟩, ?_⟩
    intro exact_
    have decimals := exact_ selection listed number parsed
    exact absurd ((Numeric.store_exact_iff (store_of_toColumn column)).mpr decimals) kept

theorem OfferingOnly.alike {after : Database} (only : OfferingOnly db after) :
    Alike snapshot db after := by
  obtain ⟨offering, audit, rfl⟩ := only
  exact ⟨⟨rfl, rfl, rfl, rfl, rfl, rfl, rfl⟩, fun _ => rfl⟩

/-- Each selection that a command writes is listed by the snapshot. -/
def Command.Listed (snapshot : ProviderSnapshot) : Command → Prop
  | .putEvent event => event ∈ snapshot.events
  | .putMarket market => market ∈ snapshot.markets
  | .putSelection selection => selection ∈ snapshot.selections
  | _ => True

theorem Command.perform_unknown {command : Command} (unknown : ¬ command.Known db) :
    command.perform runtime db = .ok db := by
  cases command with
  | putSport sport => exact absurd trivial unknown
  | syncOffering slug offered => exact absurd trivial unknown
  | putLeague league => rw [perform, if_neg (mt (mem_map_iff_has _ _).mp unknown)]
  | putTeam team => rw [perform, if_neg (mt (mem_map_iff_has _ _).mp unknown)]
  | putFixture fixture =>
      rw [perform]
      simp only [mem_map_iff_has]
      exact if_neg unknown
  | putEvent event => rw [perform, if_neg (mt (mem_map_iff_has _ _).mp unknown)]
  | putMarket market => rw [perform, if_neg (mt (mem_map_iff_has _ _).mp unknown)]
  | putSelection selection => rw [perform, if_neg (mt (mem_map_iff_has _ _).mp unknown)]

/-- A finished command changes nothing that counts. -/
theorem Command.Finished.still {command : Command} (listed : command.Listed snapshot)
    (finished : command.Finished runtime db) :
    ∃ after, command.perform runtime db = .ok after ∧ Alike snapshot db after := by
  by_cases known : command.Known db
  · have written := finished known
    cases command with
    | putSport sport => exact ⟨db, upsertSport_eq_self written, .refl db⟩
    | putLeague league =>
        obtain ⟨row, stored, writes⟩ := written
        refine ⟨db, ?_, .refl db⟩
        rw [Command.perform, if_pos ((mem_map_iff_has _ _).mpr known),
          upsertLeague_eq_self stored writes]
    | putTeam team =>
        obtain ⟨row, stored, writes⟩ := written
        refine ⟨db, ?_, .refl db⟩
        rw [Command.perform, if_pos ((mem_map_iff_has _ _).mpr known),
          upsertTeam_eq_self stored writes]
    | syncOffering slug offered =>
        obtain ⟨after, evaluated, only⟩ := eval_syncTenantLeagues slug offered db
        refine ⟨after, ?_, only.alike⟩
        rw [Command.perform, evaluated]
    | putFixture fixture =>
        obtain ⟨row, stored, startsAt, dated, rfl⟩ := written
        refine ⟨db, ?_, .refl db⟩
        rw [Command.perform]
        simp only [mem_map_iff_has]
        rw [if_pos ⟨known.1, known.2.1, known.2.2⟩, dated]
        unfold upsertFixture
        dsimp only
        rw [Table.put_eq_self stored]
    | putEvent event =>
        obtain ⟨accepted, stored, closed⟩ := written
        refine ⟨db, ?_, .refl db⟩
        rw [Command.perform, if_pos ((mem_map_iff_has _ _).mpr known), accepted.upsertEvent,
          Table.put_eq_self stored]
        change Except.ok (closeEnded db event) = _
        rw [closeEnded_eq_self closed]
    | putMarket market =>
        obtain ⟨row, stored, line, column, rfl⟩ := written
        refine ⟨db, ?_, .refl db⟩
        rw [Command.perform, if_pos ((mem_map_iff_has _ _).mpr known)]
        unfold upsertMarket
        rw [column]
        change Except.ok { db with catalog.markets := _ } = _
        rw [Table.put_eq_self stored]
    | putSelection selection =>
        obtain ⟨row, stored, writes⟩ := written
        rw [Command.perform, if_pos ((mem_map_iff_has _ _).mpr known)]
        exact priceSelection_again listed stored writes
  · exact ⟨db, Command.perform_unknown known, .refl db⟩

end Still

section Lasting

variable {runtime : Runtime} {db after : Database} {snapshot : ProviderSnapshot}

theorem Filed.effect {command : Command} (filed : Filed db) (coherent : Coherent snapshot)
    (listed : command.Listed snapshot) (effect : command.Effect runtime db after) :
    Filed after := by
  cases effect with
  | skipped _ => exact filed
  | putSport _ _ =>
      exact filed.onward ⟨⟨rfl, rfl, rfl, rfl⟩, fun _ has => has.put _, fun _ => id, fun _ => id,
        fun _ => id⟩
  | putLeague _ =>
      exact filed.onward ⟨⟨rfl, rfl, rfl, rfl⟩, fun _ => id, fun _ has => has.put _, fun _ => id,
        fun _ => id⟩
  | putTeam _ =>
      exact filed.onward ⟨⟨rfl, rfl, rfl, rfl⟩, fun _ => id, fun _ => id, fun _ has => has.put _,
        fun _ => id⟩
  | syncOffering only => exact filed.onward only.unscheduled.toOnward
  | putFixture _ =>
      exact filed.onward ⟨⟨rfl, rfl, rfl, rfl⟩, fun _ => id, fun _ => id, fun _ => id,
        fun _ has => has.put _⟩
  | putEvent done => exact (filed.upsertEvent coherent listed done).closeEnded _
  | putMarket done => exact filed.upsertMarket coherent listed done
  | putSelection odds known done =>
      exact (filed.upsertSelection known done).onward (onward_oddsSnapshots _ odds)

/-- A row stays where another key is put. -/
theorem exists_put {Row : Type} {key : Row → String} {table : Table Row key} {writes : Row → Prop}
    {row : Row} (stored : ∃ old ∈ table, writes old)
    (apart : ∀ old, writes old → key old ≠ key row) : ∃ old ∈ table.put row, writes old := by
  obtain ⟨old, there, wrote⟩ := stored
  exact ⟨old, Table.mem_put.mpr (.inr ⟨there, apart old wrote⟩), wrote⟩

/-- Commands come in the order of their phases, and each names its row only once in a phase. -/
def Command.Before (command later : Command) : Prop :=
  command.phase < later.phase ∨ command.phase = later.phase ∧ command.ref ≠ later.ref

section Events

variable {event : NormalizedEvent}

/-- What a listed market or selection of an event that has ended stands at. -/
theorem settled_of_marketStatusOf (past : event.status = .ended) :
    marketStatusOf event = .settled ∧ selectionStatusOf event = .settled :=
  ⟨if_pos past, if_pos past⟩

variable (coherent : Coherent snapshot) (wellFormed : WellFormed snapshot)
  (own : event ∈ snapshot.events) (past : event.status = .ended)

include coherent wellFormed own past

theorem market_settled {market : NormalizedMarket} (listed : market ∈ snapshot.markets)
    (of : market.eventProviderRef = event.providerRef) : market.status = .settled := by
  obtain ⟨shown, member, named, status⟩ := wellFormed.markets market listed
  obtain rfl := coherent.event_eq member own (named.trans of)
  rw [status]
  exact (settled_of_marketStatusOf past).1

theorem selection_settled (filed : Filed db) {selection : NormalizedSelection}
    (listed : selection ∈ snapshot.selections) {row : Selection}
    (on : row.market = selection.marketProviderRef)
    (of : selectionOfEvent db event.providerRef row = true) : selection.status = .settled := by
  obtain ⟨market, among, ref, shown, member, named, status⟩ :=
    wellFormed.selections selection listed
  obtain ⟨found, there, same, under⟩ := selectionOfEvent_iff.mp of
  -- The market carries its event in its reference, stored or listed.
  have filedUnder : market.eventProviderRef = event.providerRef := by
    rw [← under, ← filed.markets found there, same, on, ← ref]
    exact (coherent.markets market among).1.symm
  obtain rfl := coherent.event_eq member own (named.trans filedUnder)
  rw [status]
  exact (settled_of_marketStatusOf past).2

end Events

namespace Command.Finished

variable {later : Command} (effect : later.Effect runtime db after)

include effect

theorem sport {sport : NormalizedSport} (finished : (putSport sport).Finished runtime db)
    (before : (putSport sport).Before later) : (putSport sport).Finished runtime after := by
  intro known
  have written := finished known
  rcases before with later | ⟨same, apart⟩
  · rw [Written, effect.untouched.sports later]
    exact written
  · cases effect with
    | skipped _ => exact written
    | putSport writes free =>
        obtain ⟨active, rfl⟩ := writes
        refine ⟨exists_put written.1 ?_, fun other stored slug => ?_⟩
        · rintro _ ⟨_, rfl⟩
          exact apart
        · rcases Table.mem_put.mp stored with rfl | ⟨old, _⟩
          · obtain ⟨row, there, _, rfl⟩ := written.1
            exact (free _ there slug.symm).symm
          · exact written.2 other old slug
    | _ => exact absurd same (by simp [phase])

theorem league {league : NormalizedLeague} (finished : (putLeague league).Finished runtime db)
    (before : (putLeague league).Before later) : (putLeague league).Finished runtime after := by
  have phase : 1 ≤ later.phase := before.elim Nat.le_of_lt fun same => same.1.le
  intro known
  rw [Known, effect.untouched.sports phase] at known
  have written := finished known
  rcases before with later | ⟨same, apart⟩
  · rw [Written, effect.untouched.leagues later]
    exact written
  · cases effect with
    | skipped _ => exact written
    | putLeague writes =>
        obtain ⟨kept, active, rfl⟩ := writes
        apply exists_put written
        rintro _ ⟨_, _, rfl⟩
        exact apart
    | _ => exact absurd same (by simp [Command.phase])

theorem team {team : NormalizedTeam} (finished : (putTeam team).Finished runtime db)
    (before : (putTeam team).Before later) : (putTeam team).Finished runtime after := by
  have phase : 2 ≤ later.phase := before.elim Nat.le_of_lt fun same => same.1.le
  intro known
  rw [Known, effect.untouched.sports (Nat.lt_of_lt_of_le Nat.two_pos phase)] at known
  have written := finished known
  rcases before with later | ⟨same, apart⟩
  · rw [Written, effect.untouched.teams later]
    exact written
  · cases effect with
    | skipped _ => exact written
    | putTeam writes =>
        obtain ⟨kept, rfl⟩ := writes
        apply exists_put written
        rintro _ ⟨_, rfl⟩
        exact apart
    | _ => exact absurd same (by simp [Command.phase])

theorem fixture {fixture : NormalizedFixture} (finished : (putFixture fixture).Finished runtime db)
    (before : (putFixture fixture).Before later) : (putFixture fixture).Finished runtime after := by
  have phase : 4 ≤ later.phase := before.elim Nat.le_of_lt fun same => same.1.le
  intro known
  rw [Known, effect.untouched.leagues (Nat.lt_of_lt_of_le (by decide) phase),
    effect.untouched.teams (Nat.lt_of_lt_of_le (by decide) phase)] at known
  have written := finished known
  rcases before with later | ⟨same, apart⟩
  · rw [Written, effect.untouched.fixtures later]
    exact written
  · cases effect with
    | skipped _ => exact written
    | putFixture writes =>
        obtain ⟨startsAt, _, rfl⟩ := writes
        apply exists_put written
        rintro _ ⟨_, _, rfl⟩
        exact apart
    | _ => exact absurd same (by simp [Command.phase])

theorem market {market : NormalizedMarket} (finished : (putMarket market).Finished runtime db)
    (before : (putMarket market).Before later) : (putMarket market).Finished runtime after := by
  have phase : 6 ≤ later.phase := before.elim Nat.le_of_lt fun same => same.1.le
  intro known
  rw [Known, effect.untouched.events (Nat.lt_of_lt_of_le (by decide) phase)] at known
  have written := finished known
  rcases before with later | ⟨same, apart⟩
  · rw [Written, effect.untouched.markets later]
    exact written
  · cases effect with
    | skipped _ => exact written
    | putMarket done =>
        obtain ⟨_, ⟨line, _, rfl⟩, rfl⟩ := upsertMarket_writes done
        apply exists_put written
        rintro _ ⟨_, _, rfl⟩
        exact apart
    | _ => exact absurd same (by simp [Command.phase])

theorem selection {selection : NormalizedSelection}
    (finished : (putSelection selection).Finished runtime db)
    (before : (putSelection selection).Before later) :
    (putSelection selection).Finished runtime after := by
  have phase : 7 ≤ later.phase := before.elim Nat.le_of_lt fun same => same.1.le
  intro known
  rw [Known, effect.untouched.markets (Nat.lt_of_lt_of_le (by decide) phase)] at known
  have written := finished known
  cases effect with
  | skipped _ => exact written
  | putSelection odds _ done =>
      obtain ⟨_, ⟨_, price, _, _, rfl⟩, rfl⟩ := upsertSelection_writes done
      rcases before with impossible | ⟨_, apart⟩
      · exact absurd impossible (Nat.lt_irrefl 7)
      · apply exists_put written
        rintro _ ⟨_, _, _, _, rfl⟩
        exact apart
  | _ => exact absurd phase (by simp [Command.phase])

/-- What comes in later for an event that has ended comes in settled. -/
theorem event {event : NormalizedEvent} (wellFormed : WellFormed snapshot)
    (coherent : Coherent snapshot) (filed : Filed db) (own : event ∈ snapshot.events)
    (listed : later.Listed snapshot) (finished : (putEvent event).Finished runtime db)
    (before : (putEvent event).Before later) : (putEvent event).Finished runtime after := by
  have phase : 5 ≤ later.phase := before.elim Nat.le_of_lt fun same => same.1.le
  intro known
  rw [Known, effect.untouched.fixtures (Nat.lt_of_lt_of_le (by decide) phase)] at known
  obtain ⟨accepted, stored, closed⟩ := finished known
  cases effect with
  | skipped _ => exact ⟨accepted, stored, closed⟩
  | @putEvent other _ written done =>
      rcases before with impossible | ⟨_, apart⟩
      · exact absurd impossible (Nat.lt_irrefl 5)
      have alone := (accepted_of_upsertEvent done).alone
      obtain rfl := upsertEvent_ok done
      refine ⟨⟨accepted.homeScore, accepted.awayScore, ?_, ?_⟩, ?_, fun past => ?_⟩
      · rw [closeEnded_fixtures]
        exact accepted.hosted
      · rw [closeEnded_events]
        intro row present same
        rcases Table.mem_put.mp present with rfl | ⟨old, _⟩
        · exact (alone _ stored same.symm).symm
        · exact accepted.alone row old same
      · rw [closeEnded_events]
        exact Table.mem_put.mpr (.inr ⟨stored, apart⟩)
      · apply Settled.closeEnded
        exact ⟨(closed past).markets, (closed past).selections⟩
  | @putMarket market _ _ done =>
      obtain ⟨line, _, rfl⟩ := upsertMarket_ok done
      refine ⟨⟨accepted.homeScore, accepted.awayScore, accepted.hosted, accepted.alone⟩, stored,
        fun past => ?_⟩
      have plain : Text.before ':' (marketRow market line).providerRef = (marketRow market line).event :=
        (coherent.markets market listed).1
      exact (closed past).putMarket filed plain fun of =>
        market_settled coherent wellFormed own past listed of
  | @putSelection selection _ _ odds _ done =>
      obtain ⟨price, rfl⟩ := upsertSelection_ok done
      refine ⟨⟨accepted.homeScore, accepted.awayScore, accepted.hosted, accepted.alone⟩, stored,
        fun past => ?_⟩
      have closes : selectionOfEvent db event.providerRef (selectionRow selection price) = true →
          (selectionRow selection price).status = .settled :=
        selection_settled coherent wellFormed own past filed listed rfl
      exact (closed past).putSelection closes odds
  | _ => exact absurd phase (by simp [Command.phase])

end Command.Finished

/-- No later command undoes an earlier one. -/
theorem Command.Finished.stays {command later : Command} (wellFormed : WellFormed snapshot)
    (coherent : Coherent snapshot) (filed : Filed db) (own : command.Listed snapshot)
    (listed : later.Listed snapshot) (before : command.Before later)
    (finished : command.Finished runtime db) (effect : later.Effect runtime db after) :
    command.Finished runtime after := by
  cases command with
  | putSport sport => exact Finished.sport effect finished before
  | putLeague league => exact Finished.league effect finished before
  | putTeam team => exact Finished.team effect finished before
  | syncOffering _ _ => exact fun _ => trivial
  | putFixture fixture => exact Finished.fixture effect finished before
  | putEvent event =>
      exact Finished.event effect wellFormed coherent filed own listed finished before
  | putMarket market => exact Finished.market effect finished before
  | putSelection selection => exact Finished.selection effect finished before

end Lasting

section Order

variable {snapshot : ProviderSnapshot}

theorem before_map {Item : Type} {items : List Item} {ref : Item → String}
    (once : (items.map ref).Nodup) (command : Item → Command) {phase : ℕ}
    (phases : ∀ item, (command item).phase = phase) (refs : ∀ item, (command item).ref = ref item) :
    (items.map command).Pairwise Command.Before := by
  rw [List.pairwise_map]
  apply (List.pairwise_map.mp once).imp
  intro first second apart
  right
  rw [phases, phases, refs, refs]
  exact ⟨rfl, apart⟩

theorem before_append {first second : List Command} (bound : ℕ)
    (former : first.Pairwise Command.Before) (latter : second.Pairwise Command.Before)
    (low : ∀ command ∈ first, command.phase < bound)
    (high : ∀ command ∈ second, bound ≤ command.phase) :
    (first ++ second).Pairwise Command.Before := by
  rw [List.pairwise_append]
  refine ⟨former, latter, fun command listed later member => .inl ?_⟩
  exact Nat.lt_of_lt_of_le (low command listed) (high later member)

variable (wellFormed : WellFormed snapshot)

include wellFormed

theorem before_live : (liveCommands snapshot).Pairwise Command.Before := by
  unfold liveCommands
  apply before_append 6
  · exact before_map wellFormed.eventsOnce .putEvent (fun _ => rfl) fun _ => rfl
  · apply before_append 7
    · exact before_map wellFormed.marketsOnce .putMarket (fun _ => rfl) fun _ => rfl
    · exact before_map wellFormed.selectionsOnce .putSelection (fun _ => rfl) fun _ => rfl
    · simp [Command.phase]
    · simp [Command.phase]
  · simp [Command.phase]
  · simp [or_imp, forall_and, Command.phase]

theorem before_fixturesThenLive :
    (snapshot.fixtures.map Command.putFixture ++ liveCommands snapshot).Pairwise
      Command.Before := by
  apply before_append 5
  · exact before_map wellFormed.fixturesOnce .putFixture (fun _ => rfl) fun _ => rfl
  · exact before_live wellFormed
  · simp [Command.phase]
  · simp [liveCommands, or_imp, forall_and, Command.phase]

theorem before_catalog : (catalogCommands snapshot).Pairwise Command.Before := by
  unfold catalogCommands
  apply before_append 1
  · exact before_map wellFormed.sportsOnce .putSport (fun _ => rfl) fun _ => rfl
  · apply before_append 2
    · exact before_map wellFormed.leaguesOnce .putLeague (fun _ => rfl) fun _ => rfl
    · exact before_map wellFormed.teamsOnce .putTeam (fun _ => rfl) fun _ => rfl
    · simp [Command.phase]
    · simp [Command.phase]
  · simp [Command.phase]
  · simp [or_imp, forall_and, Command.phase]

theorem before_commands (run : IngestRun) :
    (run.commands snapshot).Pairwise Command.Before := by
  cases run with
  | catalog fetched =>
      apply before_append 3
      · exact before_catalog wellFormed
      · apply before_append 4
        · simp [offeringCommands, Command.Before, Command.phase, Command.ref]
        · exact before_fixturesThenLive wellFormed
        · simp [offeringCommands, Command.phase]
        · simp [liveCommands, or_imp, forall_and, Command.phase]
      · simp [catalogCommands, or_imp, forall_and, Command.phase]
      · simp [offeringCommands, liveCommands, or_imp, forall_and, Command.phase]
  | live now prestartMinutes fetchLiveSnapshot =>
      apply before_append 3
      · exact before_catalog wellFormed
      · exact before_fixturesThenLive wellFormed
      · simp [catalogCommands, or_imp, forall_and, Command.phase]
      · simp [liveCommands, or_imp, forall_and, Command.phase]
  | results given => exact before_live wellFormed

omit wellFormed in
theorem listed_commands (run : IngestRun) :
    ∀ command ∈ run.commands snapshot, command.Listed snapshot := by
  cases run <;> simp [IngestRun.commands, catalogCommands, offeringCommands, liveCommands, or_imp,
    forall_and, Command.Listed]

end Order

section Again

variable {runtime : Runtime} {db : Database} {snapshot : ProviderSnapshot}

theorem repeatable (coherent : Coherent snapshot) (wellFormed : WellFormed snapshot)
    (run : IngestRun) : Repeatable (Command.perform runtime) (Alike snapshot) Filed
      (Command.Finished runtime) (run.commands snapshot) where
  trans _ _ _ := Alike.trans
  keeps command member db after filed done :=
    filed.effect coherent (listed_commands run command member) (Command.effect done)
  finishes command _ db after _ done := Command.finishes (Command.effect done)
  stays := by
    apply (before_commands wellFormed run).imp_of_mem
    intro command later own listed before db after filed finished done
    exact finished.stays wellFormed coherent filed (listed_commands run command own)
      (listed_commands run later listed) before (Command.effect done)
  again command member db other finished alike :=
    (finished.congr alike.rows).still (listed_commands run command member)
  fails command _ db other failure rejected alike := Command.fails alike.rows rejected

/-- Both are runs of the same service method. -/
def IngestRun.SameMethod : IngestRun → IngestRun → Prop
  | .catalog _, .catalog _ => True
  | .live _ _ _, .live _ _ _ => True
  | .results _, .results _ => True
  | _, _ => False

theorem IngestRun.ingests_or_idle {run : IngestRun} (fetches : run.Fetches db snapshot) :
    run.Ingests db snapshot ∨ (run.program runtime true).eval db = (.ok (), db) := by
  cases run with
  | catalog fetched => exact .inl fetches
  | results given => exact .inl fetches
  | live now prestartMinutes fetchLiveSnapshot =>
      cases fetchLiveSnapshot with
      | none => exact fetches.elim
      | some fetch =>
          by_cases scope : liveSportKeys now prestartMinutes db = []
          · right
            unfold IngestRun.program ingestLiveTick read
            rw [Program.eval_void, Program.eval_read_bind, scope]
            rfl
          · exact .inl ⟨scope, fetches⟩

/-- Once more, the run finds its rows as it would write them. A live tick may also find that
no game is live any longer. -/
theorem alike_again (filed : Filed db) (mapped : Mapped snapshot) {first second : IngestRun}
    (same : first.SameMethod second) (ingests : first.Ingests db snapshot)
    (fetches : second.Fetches ((first.program runtime true).eval db).2 snapshot) :
    Alike snapshot ((first.program runtime true).eval db).2
      ((second.program runtime true).eval ((first.program runtime true).eval db).2).2 := by
  have wellFormed := mapped.wellFormed
  have commands : second.commands snapshot = first.commands snapshot := by
    cases first <;> cases second <;> first | rfl | exact same.elim
  rw [(first.performs_program wellFormed.selectionsOnce ingests).store_eq] at fetches ⊢
  rcases IngestRun.ingests_or_idle fetches with again | idle
  · rw [(second.performs_program wellFormed.selectionsOnce again).store_eq, commands]
    exact (run_again (repeatable mapped.coherent wellFormed first) filed (.refl _)).2
  · rw [idle]
    exact .refl _

end Again

end SportsBetting.Ingestion
