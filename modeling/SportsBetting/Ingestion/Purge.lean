import SportsBetting.Async.Joint
import SportsBetting.Bets.Lifecycle
import SportsBetting.Bets.Records
import SportsBetting.Ingestion.Runs

/-!
# Which bets a purge deletes

The purge chooses fixtures by the bets that are active on them, then bets by
their legs, and deletes what it chose in one transaction. In between, bets are
placed, and what a settled bet still owes is not looked at.
-/

namespace SportsBetting.Ingestion

open Async Ledger

inductive Purge
  | mockCatalog
  | staleFixtures (stale : Fixture → Bool)

namespace Purge

/-- The fixtures that the purge is after. -/
def chosen : Purge → Fixture → Bool
  | .mockCatalog => mockFixtureWhere
  | .staleFixtures stale => stale

def program : Purge → Service Unit
  | .mockCatalog => purgeMockCatalog.void
  | .staleFixtures stale => (deleteStaleFixtures stale).void

/-- The bet has a leg on a fixture that the purge is after and that has no active bets. -/
def dooms (purge : Purge) (db : Database) (bet : Bet) : Bool :=
  betsOn db (fixturesWhere db purge.chosen false) bet

end Purge

/-- A wallet movement of the bet is not delivered yet. -/
def owes (db : Database) (bet : Bet) : Prop :=
  ∃ row ∈ db.ledger.walletOutbox, row.betId = bet.id ∧ row.status = .pending

section Chosen

variable {db : Database} {fixtures : List String}

theorem hasSelection_of_fixture {selectionRef fixture : String}
    (found : fixtureOfSelection db selectionRef = some fixture) :
    selectionRef ∈ db.catalog.selections.rows.map Selection.providerRef := by
  unfold fixtureOfSelection at found
  cases stored : db.catalog.selections.get? selectionRef with
  | none => simp [stored] at found
  | some selection =>
      obtain ⟨member, same⟩ := Table.get?_eq_some_iff.mp stored
      exact List.mem_map.mpr ⟨selection, Table.mem_rows.mpr member, same⟩

theorem mem_selectionsOn {selectionRef : String} :
    selectionRef ∈ selectionsOn db fixtures ↔
      ∃ fixture ∈ fixtures, fixtureOfSelection db selectionRef = some fixture := by
  unfold selectionsOn
  rw [List.mem_filter]
  constructor
  · rintro ⟨_, on⟩
    cases found : fixtureOfSelection db selectionRef with
    | none => simp [found] at on
    | some fixture => exact ⟨fixture, by simpa [found] using on, rfl⟩
  · rintro ⟨fixture, member, found⟩
    exact ⟨hasSelection_of_fixture found, by simpa [found] using member⟩

/-- The bet has a leg on one of the selections. -/
def hasLegOn (selectionIds : List String) (bet : Bet) : Bool :=
  bet.legs.any fun leg => leg.selectionId ∈ selectionIds

theorem mem_betIdsOn {selectionIds : List String} {bet : Bet} (stored : bet ∈ db.ledger.bets) :
    bet.id ∈ betIdsOn db selectionIds ↔ hasLegOn selectionIds bet = true := by
  simp only [betIdsOn, List.mem_map, List.mem_filter]
  constructor
  · rintro ⟨other, ⟨present, legs⟩, same⟩
    rwa [← Table.eq_of_key present stored same]
  · intro legs
    exact ⟨bet, ⟨stored, legs⟩, rfl⟩

theorem hasLegOn_selectionsOn (bet : Bet) :
    hasLegOn (selectionsOn db fixtures) bet = betsOn db fixtures bet := by
  rw [Bool.eq_iff_iff, hasLegOn, betsOn, List.any_eq_true, List.any_eq_true]
  refine exists_congr fun leg => and_congr_right fun _ => ?_
  rw [decide_eq_true_iff, mem_selectionsOn]
  cases fixtureOfSelection db leg.selectionId with
  | none => simp
  | some fixture => simp

/-- No fixture that a purge chooses has active bets. -/
theorem not_dooms_active {purge : Purge} {bet : Bet} (stored : bet ∈ db.ledger.bets)
    (active : bet.status.isFinal = false) : purge.dooms db bet = false := by
  by_contra doomed
  obtain ⟨leg, member, on⟩ := List.any_eq_true.mp (by simpa [Purge.dooms, betsOn] using doomed)
  cases found : fixtureOfSelection db leg.selectionId with
  | none => simp [found] at on
  | some fixture =>
      simp only [found, decide_eq_true_iff] at on
      obtain ⟨_, _, _, _, idle⟩ := mem_fixturesWhere.mp on
      have busy : fixtureHasActiveBets db fixture = true := by
        refine List.any_eq_true.mpr ⟨bet, Table.mem_rows.mpr stored, ?_⟩
        rw [Bool.and_eq_true]
        refine ⟨?_, List.any_eq_true.mpr ⟨leg, member, by simp [found]⟩⟩
        cases status : bet.status <;> simp_all [BetStatus.isFinal]
      rw [busy] at idle
      cases idle

end Chosen

section Alone

variable {purge : Purge} {db : Database}

/-- Exactly the doomed bets are gone. -/
def Purged (purge : Purge) (db after : Database) : Prop :=
  ∀ bet, bet ∈ after.ledger.bets ↔ bet ∈ db.ledger.bets ∧ purge.dooms db bet = false

/-- Nothing is deleted yet, or all that is doomed. -/
def Purging (purge : Purge) (db after : Database) : Prop :=
  after.ledger = db.ledger ∨ Purged purge db after

theorem purged_of_none (none : ∀ bet ∈ db.ledger.bets, purge.dooms db bet = false)
    {after : Database} (same : after.ledger = db.ledger) : Purged purge db after := by
  intro bet
  rw [same]
  exact ⟨fun stored => ⟨stored, none bet stored⟩, And.left⟩

/-- What the transaction leaves, by the ids that were read. -/
theorem purged_of_deleted {betIds fixtures : List String} {count : ℕ} {after : Database}
    (ids : ∀ bet ∈ db.ledger.bets, bet.id ∈ betIds ↔ purge.dooms db bet = true)
    (done : deleteBetsAndFixtures db betIds fixtures = .ok (count, after)) :
    Purged purge db after := by
  rw [(deleteFixtures_ok (deleteBetsAndFixtures_ok done)).2]
  intro bet
  simp only [deleteBets, Table.mem_deleteWhere, decide_eq_false_iff_not]
  exact and_congr_right fun stored => by rw [ids bet stored, Bool.not_eq_true]

theorem deleteFixturesWithBets_purges {betIds fixtures : List String}
    (ids : ∀ bet ∈ db.ledger.bets, bet.id ∈ betIds ↔ purge.dooms db bet = true) :
    Keeps (Purging purge db) (fun _ after => Purged purge db after)
      (deleteFixturesWithBets betIds fixtures) db := by
  unfold deleteFixturesWithBets
  split
  · next empty =>
    have none : ∀ bet ∈ db.ledger.bets, purge.dooms db bet = false := by
      intro bet stored
      rw [List.isEmpty_iff.mp empty] at ids
      simpa using ids bet stored
    refine Upholds.bind (Upholds.transaction (.inl rfl) fun count after done => ?_)
      fun count after kept done => Upholds.pure kept ?_
    · rw [(deleteFixtures_ok (removeFixtures_ok done)).2]
      exact .inl rfl
    · rw [(deleteFixtures_ok (removeFixtures_ok done)).2]
      exact purged_of_none none rfl
  · refine Upholds.bind (Upholds.transaction (.inl rfl) fun count after done => ?_)
      fun count after kept done => Upholds.pure kept ?_
    · exact .inr (purged_of_deleted ids done)
    · exact purged_of_deleted ids done

theorem deleteFixturesAndBetHistory_purges (purge : Purge) (db : Database) :
    Keeps (Purging purge db) (fun _ after => Purged purge db after)
      (deleteFixturesAndBetHistory purge.chosen) db := by
  have start : Purging purge db db := .inl rfl
  unfold deleteFixturesAndBetHistory
  refine Upholds.bind (Upholds.read start) ?_
  rintro skipped now _ ⟨rfl, _⟩
  refine Upholds.bind (Upholds.read start) ?_
  rintro fixtures now' _ ⟨rfl, rfl⟩
  split
  · next empty =>
    refine Upholds.pure start (purged_of_none (fun bet _ => ?_) rfl)
    unfold Purge.dooms
    rw [List.isEmpty_iff.mp empty]
    simp only [betsOn, List.any_eq_false]
    intro leg _
    split <;> simp
  refine Upholds.bind (Upholds.read start) ?_
  rintro selectionIds now _ ⟨rfl, rfl⟩
  have legs : Keeps (Purging purge now) (fun betIds after => after = now ∧
      ∀ bet ∈ now.ledger.bets, bet.id ∈ betIds ↔ purge.dooms now bet = true)
      (findBetIds (selectionsOn now (fixturesWhere now purge.chosen false))) now := by
    unfold findBetIds
    split
    · next empty =>
      refine Upholds.pure start ⟨rfl, fun bet _ => ?_⟩
      unfold Purge.dooms
      rw [← hasLegOn_selectionsOn, List.isEmpty_iff.mp empty]
      simp [hasLegOn]
    · refine (Upholds.read start).mono ?_
      rintro betIds after ⟨rfl, rfl⟩
      refine ⟨rfl, fun bet stored => ?_⟩
      rw [mem_betIdsOn stored, hasLegOn_selectionsOn]
      rfl
  refine Upholds.bind legs ?_
  rintro betIds after _ ⟨rfl, ids⟩
  exact deleteFixturesWithBets_purges ids

theorem program_purges (purge : Purge) (db : Database) :
    Keeps (Purging purge db) (fun _ after => Purged purge db after) purge.program db := by
  cases purge with
  | staleFixtures stale =>
      exact Upholds.void (Upholds.bind (deleteFixturesAndBetHistory_purges (.staleFixtures stale) db)
        fun _ _ kept done => Upholds.pure kept done)
  | mockCatalog =>
      refine Upholds.void ?_
      unfold purgeMockCatalog
      refine Upholds.bind (Upholds.read (.inl rfl)) ?_
      rintro skipped now _ ⟨rfl, _⟩
      refine Upholds.bind (deleteFixturesAndBetHistory_purges .mockCatalog now) ?_
      intro removed after _ done
      refine Upholds.bind (Upholds.transaction (.inr done) ?_) ?_
      · intro count later same
        obtain ⟨_, rfl⟩ := Prod.mk.inj (Except.ok.inj same)
        exact .inr done
      · intro count later sound same
        obtain ⟨_, rfl⟩ := Prod.mk.inj (Except.ok.inj same)
        exact Upholds.pure sound done

end Alone

section Interleaved

/-- The betting side, with the queries of ingestion on its database. -/
abbrev purgingMachine : Machine (Joint BettingCall (Query Database Failure)) Failure :=
  bettingMachine.withQueries ⟨World.db, fun world db => { world with db }, Choice.fault⟩
    Failure.database

/-- One purge, and everyone who works on bets. -/
def purging (limits : BetValidation.EnvConfig) (runtime : Text.Runtime) (world : World)
    (purge : Purge) (actors : List Actor) : Config purgingMachine :=
  ⟨world, purge.program.mapCalls .other ::
    actors.map fun actor => (actor.program limits runtime).mapCalls .own⟩

/-- The bet is decided, and so owes nothing to its player but what is written down. -/
def Decided (db : Database) (betId : String) : Prop :=
  ∃ bet, (db.ledger.entry betId).bet = some bet ∧ bet.status.isFinal = true

/-- Every active bet is still there. -/
def SparesActive (before after : Database) : Prop :=
  ∀ bet ∈ before.ledger.bets, bet.status.isFinal = false →
    ∃ kept ∈ after.ledger.bets, kept.id = bet.id

/-- The purge looks for the bets to delete. -/
inductive ReadsLegs (selectionIds : List String) : {Reply : Type} → Query Database Failure Reply → Prop
  | betIds : ReadsLegs selectionIds (Query.read fun db => betIdsOn db selectionIds)

/-- The write accepts a bet that was decided before. -/
def Reopens (db : Database) {Reply : Type} : Write Reply → Prop
  | .acceptBet betId _ => Decided db betId
  | _ => False

/-- The purge finds no active bet on its selections, and no decided bet is accepted. -/
def findsDecided : Guard purgingMachine := fun config choice request =>
  match request with
  | .other query => ∀ selectionIds, ReadsLegs selectionIds query →
      ∀ bet ∈ config.state.db.ledger.bets, hasLegOn selectionIds bet = true →
        bet.status.isFinal = true
  | .own (.write transaction) => choice.fault = .refused ∨ ¬ Reopens config.state.db transaction
  | .own _ => True

section Steps

variable {db after : Database} {betId : String}

theorem decided_update {entry : Entry} {changed : String}
    (entries : after.ledger.entry = Function.update db.ledger.entry changed entry)
    (here : changed = betId → ∃ bet, entry.bet = some bet ∧ bet.status.isFinal = true)
    (decided : Decided db betId) : Decided after betId := by
  unfold Decided
  rw [entries]
  by_cases same : betId = changed
  · subst same
    rw [Function.update_self]
    exact here rfl
  · rw [Function.update_of_ne same]
    exact decided

theorem decided_commit {credit : Credit} {now : Time} {bet : Bet}
    {outcome : WalletSettlementOutcome} (own : credit.row.betId = credit.betId)
    (status : credit.status = outcome.status)
    (committed : credit.commit now db = .ok (bet, after)) (decided : Decided db betId) :
    Decided after betId := by
  obtain ⟨old, _, _, _, entries⟩ := Credit.commit_ok own committed
  refine decided_update entries (fun _ => ⟨credit.update now old, by simp, ?_⟩) decided
  simp only [Credit.update, status]
  cases outcome <;> rfl

/-- A decided bet stays decided unless it is accepted. -/
theorem decided_write {id : String} {now : Time} {Reply : Type} {write : Write Reply}
    {reply : Reply} (ran : write.run id now db = .ok (reply, after)) (kept : ¬ Reopens db write)
    (decided : Decided db betId) : Decided after betId := by
  cases write with
  | createBet data transactionCode =>
      obtain ⟨_, fresh, _, entries⟩ := createBet_ok ran
      refine decided_update entries (fun same => ?_) decided
      obtain ⟨bet, stored, _⟩ := decided
      rw [← same, fresh] at stored
      cases stored
  | acceptBet accepted reservation =>
      obtain ⟨_, _, _, _, _, entries⟩ := acceptBet_ok ran
      exact decided_update entries (fun same => absurd (same ▸ decided) kept) decided
  | rejectBet rejected reason =>
      obtain ⟨old, _, _, _, _, entries⟩ := rejectBet_ok ran
      exact decided_update entries (fun _ => ⟨rejectedFor reason old, by simp, rfl⟩) decided
  | settleBet graded batchId =>
      obtain ⟨credit, built, committed⟩ := Except.bind_eq_ok.mp ran
      obtain ⟨_, _, _, status, _, _⟩ := settlementCredit_ok built
      exact decided_commit (settlementCredit_own built) status committed decided
  | voidBet bet casinoGroupId reason =>
      obtain ⟨credit, built, committed⟩ := Except.bind_eq_ok.mp ran
      obtain ⟨_, _, _, status, _, _⟩ := staffVoidCredit_ok built
      have outcome : credit.status = WalletSettlementOutcome.status .void := status
      exact decided_commit (staffVoidCredit_own built) outcome committed decided
  | setTransactionCode | scheduleRetry | completeRow | assignBatch | completeBatch | clearRetries |
      recordAudit =>
      obtain ⟨bet, stored, final⟩ := decided
      exact ⟨bet, by simp [Write.entry_of_rowsOnly ran trivial, Entry.map, stored], final⟩

/-- Transactions delete no bet. -/
theorem spares_write {id : String} {now : Time} {Reply : Type} {write : Write Reply}
    {reply : Reply} (ran : write.run id now db = .ok (reply, after)) : SparesActive db after := by
  have kept : ∀ betId bet, (db.ledger.entry betId).bet = some bet →
      ∃ later, (after.ledger.entry betId).bet = some later ∧ later.id = bet.id := by
    intro betId bet stored
    by_cases changes : write.ChangesCode
    · have rowsOnly : write.RowsOnly := by cases write <;> first | exact changes.elim | trivial
      exact ⟨bet, by simp [Write.entry_of_rowsOnly ran rowsOnly, Entry.map, stored], rfl⟩
    · obtain ⟨later, present, same⟩ := (Write.keeps changes ran betId).bet bet stored
      exact ⟨later, present, congrArg (fun terms => terms.1) same⟩
  intro bet stored _
  obtain ⟨later, present, same⟩ := kept bet.id bet (entry_of_bet stored)
  exact ⟨later, (entry_bet.mp present).1, same⟩

end Steps

section Purge

theorem SparesActive.of_same {before after : Database} (same : after.ledger = before.ledger) :
    SparesActive before after := fun bet stored _ => ⟨bet, by rwa [same], rfl⟩

theorem spares_transaction {α : Type} {change : Database → Except Failure (α × Database)}
    {db : Database} (spares : ∀ reply after, change db = .ok (reply, after) → SparesActive db after) :
    SparesActive db (Query.transaction change db).2 := by
  unfold Query.transaction
  cases changed : change db with
  | error failure => exact .of_same rfl
  | ok result => exact spares result.1 result.2 changed

theorem spares_deleteBets {betIds fixtures : List String} {count : ℕ} {db after : Database}
    (decided : ∀ betId ∈ betIds, Decided db betId)
    (done : deleteBetsAndFixtures db betIds fixtures = .ok (count, after)) :
    SparesActive db after := by
  intro bet stored active
  rw [(deleteFixtures_ok (deleteBetsAndFixtures_ok done)).2]
  refine ⟨bet, Table.mem_deleteWhere.mpr ⟨stored, decide_eq_false_iff_not.mpr fun among => ?_⟩, rfl⟩
  obtain ⟨other, present, final⟩ := decided bet.id among
  rw [entry_of_bet stored] at present
  rw [Option.some.inj present, final] at active
  cases active

/-- What the purge relies on and promises: bets that it found decided stay so,
and no query of it deletes an active bet. -/
def sparing : Contract purgingMachine where
  invariant _ := True
  rely request before after :=
    match request with
    | .other _ => ∀ betId, Decided before.db betId → Decided after.db betId
    | .own _ => True
  proper request world :=
    match request with
    | .other query => SparesActive world.db (query world.db).2
    | .own _ => True
  admits world _ request :=
    match request with
    | .other query => ∀ selectionIds, ReadsLegs selectionIds query →
        ∀ bet ∈ world.db.ledger.bets, hasLegOn selectionIds bet = true → bet.status.isFinal = true
    | .own _ => True

theorem sparing_stable : sparing.Stable where
  refl request _ := by cases request <;> simp [sparing]
  trans request _ _ _ first second := by
    cases request with
    | own call => trivial
    | other query => exact fun betId decided => second betId (first betId decided)
  keeps _ _ _ _ _ _ := trivial
  sound _ _ _ := trivial
  event request event state _ := by
    cases request with
    | own call => trivial
    | other query =>
        intro betId decided
        cases event <;> exact decided

variable {world : World}

theorem runs_query {α : Type} {query : Query Database Failure α}
    (spares : ∀ db, SparesActive db (query db).2) :
    sparing.Runs (Program.call (.other query)) world :=
  Contract.Safe.call fun later _ _ => ⟨spares later.db, fun _ _ => trivial⟩

theorem runs_read {α : Type} (view : Database → α) :
    sparing.Runs ((read view).mapCalls .other) world :=
  runs_query fun _ => .of_same rfl

theorem safe_findBetIds (selectionIds : List String) :
    sparing.Safe (fun outcome after => ∀ betIds, outcome = .ok betIds →
        ∀ betId ∈ betIds, Decided after.db betId)
      ((findBetIds selectionIds).mapCalls .other) world := by
  unfold findBetIds
  split
  · intro betIds answered betId member
    obtain rfl := Except.ok.inj answered
    cases member
  refine Contract.Safe.call fun later _ _ => ⟨.of_same rfl, fun choice admitted => ?_⟩
  have found : ∀ betId ∈ betIdsOn later.db selectionIds, Decided later.db betId := by
    intro betId member
    obtain ⟨bet, kept, rfl⟩ := List.mem_map.mp member
    obtain ⟨stored, legs⟩ := List.mem_filter.mp kept
    exact ⟨bet, entry_of_bet stored, admitted selectionIds .betIds bet stored legs⟩
  intro betIds answered
  cases fault : choice.fault with
  | none =>
      simp only [fault, Query.read] at answered ⊢
      obtain rfl := Except.ok.inj answered
      exact found
  | refused => simp [fault] at answered
  | unacknowledged => simp [fault] at answered

theorem runs_deleteFixturesWithBets {betIds fixtures : List String}
    (decided : ∀ betId ∈ betIds, Decided world.db betId) :
    sparing.Runs ((deleteFixturesWithBets betIds fixtures).mapCalls .other) world := by
  unfold deleteFixturesWithBets
  split
  · rw [Program.mapCalls_bind]
    refine Contract.Runs.seq (runs_query fun db => spares_transaction ?_) fun _ _ => trivial
    intro count after done
    rw [(deleteFixtures_ok (removeFixtures_ok done)).2]
    exact .of_same rfl
  · rw [Program.mapCalls_bind]
    refine Contract.Runs.seq (Contract.Safe.call fun later waited _ => ⟨?_, fun _ _ => trivial⟩)
      fun _ _ => trivial
    refine spares_transaction fun count after done => ?_
    exact spares_deleteBets (fun betId member => waited betId (decided betId member)) done

theorem runs_deleteFixturesAndBetHistory (chosen : Fixture → Bool) :
    sparing.Runs ((deleteFixturesAndBetHistory chosen).mapCalls .other) world := by
  unfold deleteFixturesAndBetHistory
  rw [Program.mapCalls_bind]
  refine Contract.Runs.seq (runs_read _) fun skipped world => ?_
  rw [Program.mapCalls_bind]
  refine Contract.Runs.seq (runs_read _) fun fixtures world => ?_
  split
  · trivial
  rw [Program.mapCalls_bind]
  refine Contract.Runs.seq (runs_read _) fun selectionIds world => ?_
  rw [Program.mapCalls_bind]
  refine Contract.Runs.bind (safe_findBetIds selectionIds) fun betIds world found => ?_
  exact runs_deleteFixturesWithBets (found betIds rfl)

theorem Purge.runs_program (purge : Purge) :
    sparing.Runs (purge.program.mapCalls .other) world := by
  cases purge with
  | staleFixtures stale =>
      unfold program deleteStaleFixtures Program.void
      rw [Program.mapCalls_bind, Program.mapCalls_bind]
      refine Contract.Runs.seq (Contract.Runs.seq ?_ fun _ _ => trivial) fun _ _ => trivial
      exact runs_deleteFixturesAndBetHistory stale
  | mockCatalog =>
      unfold program purgeMockCatalog Program.void
      rw [Program.mapCalls_bind, Program.mapCalls_bind]
      refine Contract.Runs.seq ?_ fun _ _ => trivial
      refine Contract.Runs.seq (runs_read _) fun fixturesSkipped world => ?_
      rw [Program.mapCalls_bind]
      refine Contract.Runs.seq (runs_deleteFixturesAndBetHistory _) fun removed world => ?_
      dsimp only
      rw [Program.mapCalls_bind]
      refine Contract.Runs.seq (runs_query fun db => spares_transaction ?_) fun _ _ => trivial
      intro count after done
      obtain ⟨_, rfl⟩ := Prod.mk.inj (Except.ok.inj done)
      exact .of_same rfl

end Purge

section Runs

def IsOwn {Reply : Type} : Joint BettingCall (Query Database Failure) Reply → Prop
  | .own _ => True
  | .other _ => False

variable {limits : BetValidation.EnvConfig} {runtime : Text.Runtime} {world : World} {purge : Purge}
  {actors : List Actor} {config : Config purgingMachine}

theorem decided_answer {choice : Choice} {Reply : Type} {call : BettingCall Reply}
    (guarded : findsDecided config choice (.own call)) {betId : String}
    (decided : Decided config.state.db betId) :
    Decided (config.state.answer choice call).2.db betId := by
  refine World.answer_ledger config.state
    (fun ledger => ∃ bet, (ledger.entry betId).bet = some bet ∧ bet.status.isFinal = true)
    choice call ?_ decided
  rintro write rfl carriedOut reply after ran
  exact decided_write ran (guarded.resolve_left carriedOut) decided

theorem purging_watches : sparing.Watches IsOwn 0 (purging limits runtime world purge actors) where
  sound := trivial
  safe program found := by
    obtain rfl := Option.some.inj found
    exact purge.runs_program
  others other program apart found := by
    obtain ⟨count, rfl⟩ := Nat.exists_eq_succ_of_ne_zero apart
    obtain ⟨actor, _, rfl⟩ := List.mem_map.mp (List.mem_of_getElem? found)
    exact (Program.callsOnly_trivial _).mapCalls fun _ _ => trivial

theorem watches_step {move : Move purgingMachine} (watches : sparing.Watches IsOwn 0 config)
    (permitted : config.Permits findsDecided move) :
    sparing.Watches IsOwn 0 (config.step move) := by
  refine watches.step sparing_stable ?_ ?_ permitted
  · intro config choice Reply request guarded
    cases request with
    | own call => trivial
    | other query => exact guarded
  · intro config choice Reply request own guarded _
    refine ⟨trivial, fun waits => ?_⟩
    cases request with
    | other query => exact own.elim
    | own call =>
        cases waits with
        | own waiting => trivial
        | other waiting => exact fun betId decided => decided_answer guarded decided

theorem spares_step (move : Move purgingMachine) (watches : sparing.Watches IsOwn 0 config) :
    SparesActive config.state.db (config.step move).state.db := by
  rcases config.step_cases move with same | ⟨index, choice, _, request, next, rfl, waiting⟩ |
    ⟨happening, rfl⟩
  · rw [same]
    exact .of_same rfl
  · rw [Config.step_run waiting]
    cases request with
    | own call =>
        refine World.answer_ledger config.state (fun ledger =>
          ∀ bet ∈ config.state.db.ledger.bets, bet.status.isFinal = false →
            ∃ kept ∈ ledger.bets, kept.id = bet.id) choice call ?_ (SparesActive.of_same rfl)
        rintro write rfl _ reply after ran
        exact spares_write ran
    | other query =>
        have purges : index = 0 := by
          by_contra apart
          exact (watches.others index _ apart waiting).1
        subst purges
        have proper := watches.proper sparing_stable waiting
        dsimp only
        cases choice.fault with
        | none => exact proper
        | unacknowledged => exact proper
        | refused => exact .of_same rfl
  · cases happening <;> exact .of_same rfl

theorem spares_run {moves : List (Move purgingMachine)}
    (followed : (purging limits runtime world purge actors).Follows findsDecided moves)
    {earlier later : List (Move purgingMachine)} {move : Move purgingMachine}
    (split : moves = earlier ++ move :: later) :
    SparesActive ((purging limits runtime world purge actors).run earlier).state.db
      ((purging limits runtime world purge actors).run (earlier ++ [move])).state.db := by
  subst split
  rw [Config.run_append]
  apply spares_step
  exact Config.run_preserves findsDecided (sparing.Watches IsOwn 0)
    (fun _ _ watches permitted => watches_step watches permitted) purging_watches
    ((Config.follows_append _ _ _ _).mp followed).1

end Runs

end Interleaved

/-- Alone, a purge deletes no active bet, and no bet that owes exactly if it finds none to
delete. Among other programs it deletes no active bet if it finds none when it looks for
the bets to delete, and no decided bet is accepted. -/
theorem purge_spares (purge : Purge) :
    (∀ (db : Database) (session : Session databaseMachine), session.program = purge.program →
      (∀ bet ∈ db.ledger.bets, bet.status.isFinal = false →
        bet ∈ (session.result db).ledger.bets) ∧
      ((∀ bet ∈ db.ledger.bets, owes db bet → purge.dooms db bet = false) →
        ∀ bet ∈ db.ledger.bets, owes db bet → bet ∈ (session.result db).ledger.bets) ∧
      (session.Returned db →
        ((∀ bet ∈ db.ledger.bets, owes db bet → bet ∈ (session.result db).ledger.bets) ↔
          ∀ bet ∈ db.ledger.bets, owes db bet → purge.dooms db bet = false))) ∧
    ∀ limits runtime world actors moves,
      (purging limits runtime world purge actors).Follows findsDecided moves →
      ∀ earlier move later, moves = earlier ++ move :: later →
        SparesActive ((purging limits runtime world purge actors).run earlier).state.db
          ((purging limits runtime world purge actors).run (earlier ++ [move])).state.db := by
  constructor
  · intro db session runs
    have safe := program_purges purge db
    rw [← runs] at safe
    have kept := Upholds.result (.inl rfl) safe
    have spared : ∀ bet ∈ db.ledger.bets, purge.dooms db bet = false →
        bet ∈ (session.result db).ledger.bets := by
      intro bet stored undoomed
      rcases kept.1 with same | purged
      · rwa [same]
      · exact (purged bet).mpr ⟨stored, undoomed⟩
    refine ⟨fun bet stored active => spared bet stored (not_dooms_active stored active),
      fun paid bet stored owed => spared bet stored (paid bet stored owed), fun returned => ?_⟩
    constructor
    · intro remain bet stored owed
      exact ((kept.2 returned bet).mp (remain bet stored owed)).2
    · intro paid bet stored owed
      exact spared bet stored (paid bet stored owed)
  · intro limits runtime world actors moves followed earlier move later split
    exact spares_run followed split

section Sample

/-- The match of the mock provider. -/
def mockCatalog (event : EventStatus) (market : MarketStatus) : Catalog :=
  { Sample.catalog event market with
    fixtures := ⟨[⟨"mock_match", "league", "ants", "bees", 0, .live⟩], by simp⟩
    events := ⟨[⟨"match", "mock_match", event, some 2, some 1, none, none⟩], by simp⟩ }

def mockWorld : World := .deployed (mockCatalog .live .open) 0 fun _ _ => 100

/-- The bet is placed and settled after the match. -/
def mockBetting : Config bettingMachine :=
  Actor.start ⟨"1", "100", "1000"⟩ Text.asciiRuntime mockWorld
    [Sample.placeBet "key", .settleBatch]

/-- The ledger after so many calls of the settlement. -/
def settledBy (count : ℕ) : Database :=
  (mockBetting.run (Sample.calls 0 12 "bet" ++ [.occur (.catalog (mockCatalog .ended .settled))] ++
    Sample.calls 1 count "")).state.db

def purgeAlone : Session databaseMachine :=
  ⟨Purge.mockCatalog.program, List.replicate 12 (.run 0 .none)⟩

/-- The purge, and a player who bets on the match. -/
def placingMeanwhile : Config purgingMachine :=
  purging ⟨"1", "100", "1000"⟩ Text.asciiRuntime mockWorld .mockCatalog [Sample.placeBet "key"]

def plainCalls (index count : ℕ) : List (Move purgingMachine) :=
  List.replicate count (.run index (Sample.plainly "bet"))

/-- The bet is placed after the purge has read the fixtures without active bets. -/
def placedMeanwhile : List (Move purgingMachine) :=
  plainCalls 0 3 ++ plainCalls 1 12 ++ plainCalls 0 2

/-- The payout that was still to be delivered is gone, and so is a bet that was accepted
during the purge. -/
theorem owed_and_active_bets_purged :
    (∃ bet ∈ (settledBy 6).ledger.bets, bet.status = .won ∧ owes (settledBy 6) bet ∧
      bet ∉ (purgeAlone.result (settledBy 6)).ledger.bets) ∧
    purgeAlone.Returned (settledBy 6) ∧
    (∃ bet ∈ (placingMeanwhile.run placedMeanwhile).state.db.ledger.bets, bet.status = .accepted) ∧
    (placingMeanwhile.run (placedMeanwhile ++ plainCalls 0 1)).state.db.ledger.bets.rows = [] := by
  have owed : ∃ bet ∈ (settledBy 6).ledger.bets.rows, bet.status = .won ∧
      (∃ row ∈ (settledBy 6).ledger.walletOutbox.rows, row.betId = bet.id ∧
        row.status = .pending) ∧
      bet ∉ (purgeAlone.result (settledBy 6)).ledger.bets.rows := by decide +kernel
  have active : ∃ bet ∈ (placingMeanwhile.run placedMeanwhile).state.db.ledger.bets.rows,
      bet.status = .accepted := by decide +kernel
  exact ⟨owed, by decide +kernel, active, by decide +kernel⟩

/-- Two more matches that bets are taken on, one of them of the mock provider. -/
def threeMatches (event : EventStatus) (market : MarketStatus) : Catalog :=
  { mockCatalog event market with
    fixtures := ⟨[⟨"mock_match", "league", "ants", "bees", 0, .live⟩,
      ⟨"mock_next", "league", "ants", "bees", 0, .live⟩,
      ⟨"cup", "league", "ants", "bees", 0, .live⟩], by simp⟩
    events := ⟨[⟨"match", "mock_match", event, some 2, some 1, none, none⟩,
      ⟨"next", "mock_next", .live, none, none, none, none⟩,
      ⟨"cup", "cup", .live, none, none, none, none⟩], by simp⟩
    markets := ⟨[⟨"winner", "match", .matchResult, market, none⟩,
      ⟨"next winner", "next", .matchResult, .open, none⟩,
      ⟨"cup winner", "cup", .matchResult, .open, none⟩], by simp⟩
    selections := ⟨[⟨"winner:ants", "winner", "Ants", .open, .ofUnits 2000⟩,
      ⟨"next:ants", "next winner", "Ants", .open, .ofUnits 2000⟩,
      ⟨"cup:ants", "cup winner", "Ants", .open, .ofUnits 2000⟩], by simp⟩ }

def placeOn (selectionId idempotencyKey : String) : Actor :=
  .placeBet ⟨"user", "player", "group", "EUR"⟩ idempotencyKey [selectionId] "10"

/-- The first bet is won and paid; of the two on the next match, one is voided, and its refund
not delivered, and the other stays accepted. -/
def threeBets : Config bettingMachine :=
  Actor.start ⟨"1", "100", "1000"⟩ Text.asciiRuntime
    (.deployed (threeMatches .live .open) 0 fun _ _ => 100)
    [Sample.placeBet "key", .settleBatch, placeOn "next:ants" "owed", placeOn "next:ants" "open",
      .voidBet "group" "owed" "palpable error" "staff"]

def paidMoves : List (Move bettingMachine) :=
  Sample.calls 0 12 "paid" ++ [.occur (.catalog (threeMatches .ended .settled))] ++
    Sample.calls 1 12 ""

def paidWorld : World := (threeBets.run paidMoves).state

def mixedStore : Database :=
  (threeBets.run (paidMoves ++ Sample.calls 2 12 "owed" ++ Sample.calls 3 12 "open" ++
    Sample.calls 4 4 "")).state.db

/-- The purge, and a player who bets on the cup. -/
def cupMeanwhile : Config purgingMachine :=
  purging ⟨"1", "100", "1000"⟩ Text.asciiRuntime paidWorld .mockCatalog [placeOn "cup:ants" "late"]

/-- The bet is placed after the purge has read which bets it is to delete. -/
def lateMoves : List (Move purgingMachine) := plainCalls 0 5 ++ plainCalls 1 12

def deletion : Move purgingMachine := .run 0 (Sample.plainly "bet")

instance (db : Database) (betId : String) : Decidable (Decided db betId) :=
  decidable_of_iff ((db.ledger.entry betId).bet.any fun bet => bet.status.isFinal)
    (by simp [Decided, Option.any_eq_true])

instance (db : Database) {Reply : Type} (write : Write Reply) : Decidable (Reopens db write) :=
  match write with
  | .acceptBet betId _ => inferInstanceAs (Decidable (Decided db betId))
  | .createBet .. | .rejectBet .. | .settleBet .. | .voidBet .. | .setTransactionCode ..
  | .scheduleRetry .. | .completeRow _ | .assignBatch .. | .completeBatch .. | .clearRetries _
  | .recordAudit _ => .isFalse not_false

/-- While a bet is active the purge only deletes, and no decided bet is accepted. -/
def deletesOnly : Guard purgingMachine := fun config _ request =>
  match request with
  | .other query => (∀ bet ∈ config.state.db.ledger.bets.rows, bet.status.isFinal = true) ∨
      (query config.state.db).2.ledger.bets.rows.length ≠ config.state.db.ledger.bets.rows.length
  | .own (.write transaction) => ¬ Reopens config.state.db transaction
  | .own _ => True

instance (config : Config purgingMachine) (choice : Choice) {Reply : Type}
    (request : Joint BettingCall (Query Database Failure) Reply) :
    Decidable (deletesOnly config choice request) := by
  unfold deletesOnly
  split <;> infer_instance

theorem findsDecided_of_deletesOnly (config : Config purgingMachine) (choice : Choice) {Reply : Type}
    (request : Joint BettingCall (Query Database Failure) Reply)
    (deletes : deletesOnly config choice request) : findsDecided config choice request := by
  cases request with
  | other query =>
      rintro selectionIds ⟨⟩ bet stored _
      rcases deletes with decided | changed
      · exact decided bet (Table.mem_rows.mpr stored)
      · exact absurd rfl changed
  | own call =>
      cases call with
      | write transaction => exact .inr deletes
      | read | randomUUID | getBalance | postTransaction | postBatch => trivial

/-- The bet that is paid goes; the one that is owed, the accepted one next to it, and the one
that is accepted during the purge are spared. -/
theorem delivered_bet_purged :
    ((∃ bet ∈ mixedStore.ledger.bets, owes mixedStore bet) ∧
      (∃ bet ∈ mixedStore.ledger.bets, bet.status = .accepted) ∧
      (purgeAlone.result mixedStore).ledger.bets.rows.map Bet.id = ["owed", "open"] ∧
      (∀ bet ∈ mixedStore.ledger.bets, bet.status.isFinal = false →
        bet ∈ (purgeAlone.result mixedStore).ledger.bets) ∧
      ∀ bet ∈ mixedStore.ledger.bets, owes mixedStore bet →
        bet ∈ (purgeAlone.result mixedStore).ledger.bets) ∧
    let before := (cupMeanwhile.run lateMoves).state.db
    let after := (cupMeanwhile.run (lateMoves ++ [deletion])).state.db
    before.ledger.bets.rows.map (fun bet => (bet.id, bet.status)) =
        [("paid", .won), ("bet", .accepted)] ∧
      after.ledger.bets.rows.map Bet.id = ["bet"] ∧ SparesActive before after := by
  have owed : ∃ bet ∈ mixedStore.ledger.bets.rows, ∃ row ∈ mixedStore.ledger.walletOutbox.rows,
      row.betId = bet.id ∧ row.status = .pending := by decide +kernel
  have active : ∃ bet ∈ mixedStore.ledger.bets.rows, bet.status = .accepted := by decide +kernel
  have undoomed : ∀ bet ∈ mixedStore.ledger.bets.rows,
      (∃ row ∈ mixedStore.ledger.walletOutbox.rows, row.betId = bet.id ∧ row.status = .pending) →
        Purge.mockCatalog.dooms mixedStore bet = false := by
    decide +kernel
  have followed : cupMeanwhile.Follows deletesOnly (lateMoves ++ [deletion]) := by decide +kernel
  obtain ⟨alone, interleaved⟩ := purge_spares .mockCatalog
  obtain ⟨activeKept, owedKept, _⟩ := alone mixedStore purgeAlone rfl
  have same : cupMeanwhile = purging ⟨"1", "100", "1000"⟩ Text.asciiRuntime paidWorld .mockCatalog
      [placeOn "cup:ants" "late"] := rfl
  rw [same] at followed
  have spared := interleaved _ _ _ _ _ (followed.mono findsDecided_of_deletesOnly) lateMoves
    deletion [] rfl
  rw [← same] at spared
  exact ⟨⟨owed, active, by decide +kernel, activeKept, owedKept undoomed⟩, by decide +kernel,
    by decide +kernel, spared⟩

end Sample

end SportsBetting.Ingestion
