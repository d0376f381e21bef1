import SportsBetting.Settlement.Backlog
import SportsBetting.Wallet.Rounds

/-!
# Settlement runs that come to their end

Without faults a run fails only where a graded bet can not be stored as settled: it has no
leg, or there is a settlement of it already. The flush that follows returns whatever the
wallets answer.
-/

namespace SportsBetting

open Async Ledger Program SettlementService WalletHttpClient WalletOutboxService

variable {runtime : Text.Runtime} {choices : ℕ → Choice} {α : Type}

section Calls

variable (faultless : Faultless choices) {state : World × ℕ}

include faultless

theorem alone_read (look : Database → Moment → α) :
    (Program.call (.read look) : Betting α).solo (inOrder choices) state =
      (.ok (look state.1.db ⟨state.1.clock, (choices state.2).rank⟩), state.1, state.2 + 1) := by
  simp only [Program.call, solo, inOrder, World.answer, faultless state.2]

/-- What can be carried out is. -/
theorem alone_write (write : Write α)
    (runs : ∀ id now, ∃ reply db, write.run id now state.1.db = .ok (reply, db)) :
    ∃ id now reply db, write.run id now state.1.db = .ok (reply, db) ∧
      (transact write).solo (inOrder choices) state =
        (.ok reply, { state.1 with db }, state.2 + 1) := by
  obtain ⟨reply, db, ran⟩ := runs (choices state.2).freshId state.1.clock
  refine ⟨_, _, reply, db, ran, ?_⟩
  simp only [transact, Program.call, solo, inOrder, World.answer, World.commit, faultless state.2,
    ran]

theorem succeeds_write (write : Write α)
    (runs : ∀ id now, ∃ reply db, write.run id now state.1.db = .ok (reply, db)) :
    (transact write).Succeeds (inOrder choices) state := by
  obtain ⟨_, _, reply, db, _, ran⟩ := alone_write faultless write runs
  exact ⟨reply, _, ran⟩

end Calls

section Flush

variable {state : World × ℕ}

theorem has_iff {ledger : Ledger} {key : String × OutboxType} :
    ledger.walletOutbox.Has key ↔ ∃ row, (ledger.entry key.1).row key.2 = some row := by
  rw [← outboxOf_eq_row]
  exact ⟨fun ⟨row, stored, own⟩ => ⟨row, Table.get?_eq_some_iff.mpr ⟨stored, own⟩⟩,
    fun ⟨row, found⟩ => ⟨row, Table.get?_eq_some_iff.mp found⟩⟩

/-- Deliveries delete no row. -/
theorem has_answer {Reply : Type} {request : BettingCall Reply} (posting : request.Posting)
    {key : String × OutboxType} (has : state.1.db.ledger.walletOutbox.Has key) :
    (inOrder choices request state).2.1.db.ledger.walletOutbox.Has key := by
  refine World.answer_ledger state.1 (fun ledger => ledger.walletOutbox.Has key) _ request ?_ has
  rintro write rfl _ reply db ran
  obtain ⟨row, stored⟩ := has_iff.mp has
  refine has_iff.mpr ⟨write.onRow state.1.clock row, ?_⟩
  rw [Write.entry_of_rowsOnly ran posting.delivering, Entry.map_row, stored]
  rfl

theorem has_of_posting {program : Betting α} (posting : program.CallsOnly BettingCall.Posting)
    {outcome : Except Failure α} {after : World × ℕ}
    (ran : program.solo (inOrder choices) state = (outcome, after)) {entries : List WalletOutbox}
    (stored : ∀ entry ∈ entries, state.1.db.ledger.walletOutbox.Has entry.key) :
    ∀ entry ∈ entries, after.1.db.ledger.walletOutbox.Has entry.key := by
  have keeps : ∀ {Reply : Type} (request : BettingCall Reply) (state : World × ℕ),
      request.Posting → (∀ entry ∈ entries, state.1.db.ledger.walletOutbox.Has entry.key) →
        ∀ entry ∈ entries,
          (inOrder choices request state).2.1.db.ledger.walletOutbox.Has entry.key :=
    fun _ _ posting held entry member => has_answer posting (held entry member)
  have kept := solo_keeps keeps posting stored
  rwa [ran] at kept

variable (faultless : Faultless choices)

include faultless

theorem succeeds_retryAll {entries : List WalletOutbox} (failure : Failure)
    (stored : ∀ entry ∈ entries, state.1.db.ledger.walletOutbox.Has entry.key) :
    (retryAll entries failure).Succeeds (inOrder choices) state := by
  refine Succeeds.foldlM (fun rest state =>
    ∀ entry ∈ rest, state.1.db.ledger.walletOutbox.Has entry.key) ?_ stored
  intro entry rest _ state held
  constructor
  · refine succeeds_write faultless _ fun id now => ?_
    obtain ⟨row, there, own⟩ := held entry List.mem_cons_self
    have present := Table.get?_eq_some_iff.mpr ⟨there, own⟩
    exact ⟨(), _, by rw [Write.run, SportsBetting.scheduleRetry, present]; rfl⟩
  · exact fun _ _ ran => has_of_posting (scheduleRetry_posting entry failure) ran
      fun other member => held other (List.mem_cons_of_mem _ member)

/-- A batch is completed or delayed, whatever the wallet answers. -/
theorem succeeds_deliverBatch (casinoGroupId : String) (batchId : ℕ) {entries : List WalletOutbox}
    (stored : ∀ entry ∈ entries, state.1.db.ledger.walletOutbox.Has entry.key) :
    (deliverBatch casinoGroupId batchId entries).Succeeds (inOrder choices) state := by
  have posting : (do
      postTransactionBatch casinoGroupId batchId entries
      transact (.completeBatch (entries.map WalletOutbox.key) batchId)
      return true : Betting Bool).CallsOnly BettingCall.Posting := by
    apply CallsOnly.bind (postTransactionBatch_posting _ _ _)
    exact fun _ => CallsOnly.bind (transact_posting trivial) fun _ => trivial
  refine Succeeds.handle fun failure after ran => ?_
  exact (succeeds_retryAll faultless failure (has_of_posting posting ran stored)).bind
    fun _ after _ => .pure false after

theorem succeeds_flush (casinoGroupId : String) :
    (flushSettlementBatchForGroup casinoGroupId).Succeeds (inOrder choices) state := by
  refine Succeeds.bind ⟨_, _, alone_read faultless _⟩ ?_
  rintro ⟨now, anchor?⟩ looked _
  cases anchor? with
  | none => exact .pure false looked
  | some anchor =>
      have numbered : (batchIdOf anchor).Succeeds (inOrder choices) looked := by
        unfold batchIdOf
        split
        · exact .pure _ looked
        · exact ⟨_, _, rfl⟩
      refine numbered.bind fun batchId drawn _ => Succeeds.bind ⟨_, _, alone_read faultless _⟩ ?_
      intro entries read seen
      rw [alone_read faultless] at seen
      obtain ⟨listed, rfl⟩ := Prod.mk.inj seen
      have stored : ∀ entry ∈ entries, drawn.1.db.ledger.walletOutbox.Has entry.key := by
        intro entry member
        rw [← Except.ok.inj listed] at member
        exact ⟨entry, (mem_dueRows.mp (List.mem_of_mem_filter member)).1, rfl⟩
      split
      · exact .pure false _
      have assigned : (assignBatchId anchor batchId entries).Succeeds (inOrder choices)
          (drawn.1, drawn.2 + 1) := by
        unfold assignBatchId
        split
        · exact succeeds_write faultless _ fun _ _ => ⟨(), _, rfl⟩
        · exact .pure () _
      have posting : (assignBatchId anchor batchId entries).CallsOnly BettingCall.Posting := by
        unfold assignBatchId
        split
        · exact transact_posting trivial
        · trivial
      exact assigned.bind fun _ marked ran =>
        succeeds_deliverBatch faultless casinoGroupId batchId (has_of_posting posting ran stored)

theorem succeeds_flushes : flushSettlementBatches.Succeeds (inOrder choices) state := by
  refine Succeeds.bind ⟨_, _, alone_read faultless _⟩ fun groups after _ => ?_
  refine Succeeds.foldlM (fun _ _ => True) (fun casinoGroupId _ _ state _ => ⟨?_, ?_⟩) trivial
  · exact (succeeds_flush faultless casinoGroupId).bind fun _ after _ => .pure _ after
  · exact fun _ _ _ => trivial

end Flush

section Stored

/-- A row is refused for its key or for its transaction code. -/
theorem createOutbox_none {ledger : Ledger} {row : WalletOutbox}
    (refused : ledger.createOutbox row = none) : ledger.walletOutbox.Has row.key ∨
      ∃ other ∈ ledger.walletOutbox, other.transactionCode = row.transactionCode := by
  unfold createOutbox at refused
  split at refused
  · next claimed =>
      obtain ⟨other, stored, same⟩ := List.any_eq_true.mp claimed
      exact .inr ⟨other, stored, of_decide_eq_true same⟩
  · exact .inl (Table.insert?_eq_none_iff.mp (Option.map_eq_none_iff.mp refused))

/-- A credit is stored for a stored bet, where the key and the code of its row are free. -/
theorem Credit.exists_commit {credit : Credit} {db : Database} {bet : Bet}
    (stored : (db.ledger.entry credit.betId).bet = some bet)
    (free : (db.ledger.entry credit.row.betId).row credit.row.type = none)
    (unnamed : ∀ other ∈ db.ledger.walletOutbox,
      other.transactionCode ≠ credit.row.transactionCode) (now : Time) :
    ∃ after, credit.commit now db = .ok (credit.update now bet, after) := by
  have present : found (db.ledger.bets.get? credit.betId) = .ok bet := found_ok.mpr stored
  unfold Credit.commit
  rw [present]
  dsimp only [bind, Except.bind]
  split
  · next refused =>
      rcases createOutbox_none refused with taken | ⟨other, stored, same⟩
      · obtain ⟨old, there⟩ := has_iff.mp (show db.ledger.walletOutbox.Has _ from taken)
        cases free.symm.trans there
      · exact absurd same (unnamed other stored)
  · exact ⟨_, rfl⟩

/-- A settlement of the bet can be stored. -/
structure Settleable (db : Database) (betId : String) (outcome : WalletSettlementOutcome) : Prop where
  stored : ∃ bet, (db.ledger.entry betId).bet = some bet
  unsettled : (db.ledger.entry betId).row .walletSettle = none
  unnamed : ∀ row ∈ db.ledger.walletOutbox, row.transactionCode ≠ .settlement betId outcome

variable {db : Database} {graded : GradedBet}

theorem Settleable.run (legs : graded.bet.legs ≠ [])
    (settleable : Settleable db graded.bet.id graded.betResult) (batchId : ℕ) (id : String)
    (now : Time) :
    ∃ bet after, (Write.settleBet graded batchId).run id now db = .ok (bet, after) := by
  obtain ⟨old, stored⟩ := settleable.stored
  obtain ⟨primary, first⟩ := exists_primaryLeg legs
  obtain ⟨request, built, _⟩ := settlement_built first graded.betResult graded.payoutAmount.text
    (.settlement graded.bet.id graded.betResult) now
  have named := (buildSettlementTransaction_ok built).2.2.1
  obtain ⟨credit, made⟩ : ∃ credit, settlementCredit graded batchId now = .ok credit := by
    rw [settlementCredit, built]
    exact ⟨_, rfl⟩
  obtain ⟨request', built', own, _, _, row⟩ := settlementCredit_ok made
  obtain rfl := Except.ok.inj (built.symm.trans built')
  rw [← own] at stored
  obtain ⟨after, committed⟩ := Credit.exists_commit stored
    (by rw [row]; exact settleable.unsettled) (by rw [row, creditRow, named]; exact settleable.unnamed)
    now
  exact ⟨_, after, by rw [Write.run, settleBet, made]; exact committed⟩

/-- What is stored for a bet leaves the others as they are. -/
theorem Settleable.other {bet : Bet} {after : Database} {batchId : ℕ} {id : String} {now : Time}
    (ran : (Write.settleBet graded batchId).run id now db = .ok (bet, after)) {betId : String}
    {outcome : WalletSettlementOutcome} (apart : betId ≠ graded.bet.id)
    (settleable : Settleable db betId outcome) : Settleable after betId outcome := by
  obtain ⟨credit, built, committed⟩ := Except.bind_eq_ok.mp ran
  obtain ⟨request, made, own, _, _, row⟩ := settlementCredit_ok built
  obtain ⟨_, _, _, _, entries⟩ := Credit.commit_ok (settlementCredit_own built) committed
  have same : after.ledger.entry betId = db.ledger.entry betId := by
    rw [entries, own, Function.update_of_ne apart]
  refine ⟨?_, ?_, fun other stored => ?_⟩
  · rw [same]
    exact settleable.stored
  · rw [same]
    exact settleable.unsettled
  · rcases row_of_update entries (entry_row.mpr ⟨stored, rfl, rfl⟩) with ⟨_, _, rfl⟩ | old
    · rw [row, creditRow, (buildSettlementTransaction_ok made).2.2.1]
      exact fun clash => apart (TransactionCode.settlement.inj clash).1.symm
    · exact settleable.unnamed other (entry_row.mp old).1

/-- Some accepted bet has no leg, or a row of its settlement is there already. -/
def Obstructed (db : Database) : Prop :=
  ∃ bet ∈ db.ledger.bets, bet.status = .accepted ∧
    (bet.legs = [] ∨ db.ledger.walletOutbox.Has (bet.id, .walletSettle) ∨
      ∃ row ∈ db.ledger.walletOutbox, ∃ outcome, row.transactionCode = .settlement bet.id outcome)

/-- What is graded can be stored, if no bet is in the way. -/
theorem settleable_of_grade (clear : ¬ Obstructed db) {betId : String}
    (passes : grade runtime db betId = some graded) :
    graded.bet.legs ≠ [] ∧ Settleable db graded.bet.id graded.betResult := by
  obtain ⟨bet, stored, status, rfl, same⟩ := bet_of_grade passes
  have there := (entry_bet.mp stored).1
  rw [same]
  refine ⟨fun legless => ?_, ⟨bet, stored⟩, ?_, fun row listed named => ?_⟩
  · have empty := ((List.perm_insertionSort _ bet.legs).symm.trans (.of_eq legless)).eq_nil
    exact clear ⟨bet, there, status, .inl empty⟩
  · rw [Option.eq_none_iff_forall_ne_some]
    intro row settles
    exact clear ⟨bet, there, status, .inr (.inl (has_iff.mpr ⟨row, settles⟩))⟩
  · exact clear ⟨bet, there, status, .inr (.inr ⟨row, listed, _, named⟩)⟩

end Stored

section Run

variable {world : World}

theorem alone_batchIdFor (choices : ℕ → Choice) (batchIdByGroup : List (String × ℕ))
    (casinoGroupId : String) (state : World × ℕ) :
    ∃ drawn after, (batchIdFor batchIdByGroup casinoGroupId).solo (inOrder choices) state =
      (.ok drawn, after) ∧ after.1.db = state.1.db := by
  unfold batchIdFor
  split
  · exact ⟨_, state, rfl, rfl⟩
  · exact ⟨_, _, rfl, rfl⟩

/-- No bet is graded twice in a run. -/
theorem nodup_gradedOldest :
    ((gradedOldest runtime world choices).map fun entry => entry.bet.id).Nodup := by
  have distinct : ((oldestBets world choices).map Bet.id).Nodup :=
    ((List.take_sublist _ _).map Bet.id).nodup (nodup_acceptedBets world.db _ _)
  rw [gradedOldest, List.Nodup, List.pairwise_map, List.pairwise_filterMap]
  refine distinct.imp fun apart first one second two => ?_
  rwa [(accepted_of_grade one).1, (accepted_of_grade two).1]

variable (faultless : Faultless choices)

include faultless

/-- Bets that can be settled are, one after the other. -/
theorem succeeds_persist {graded : List GradedBet} (legs : ∀ entry ∈ graded, entry.bet.legs ≠ [])
    (distinct : (graded.map fun entry => entry.bet.id).Nodup) {state : World × ℕ}
    (settleable : ∀ entry ∈ graded, Settleable state.1.db entry.bet.id entry.betResult) :
    (persistGradedSettlements graded).Succeeds (inOrder choices) state := by
  refine Succeeds.foldlM (fun rest state => (∀ entry ∈ rest, entry.bet.legs ≠ []) ∧
    (rest.map fun entry => entry.bet.id).Nodup ∧
    ∀ entry ∈ rest, Settleable state.1.db entry.bet.id entry.betResult) ?_
    ⟨legs, distinct, settleable⟩
  rintro entry rest batchIdByGroup state ⟨legs, distinct, settleable⟩
  obtain ⟨⟨batchId, later⟩, drawn, drew, same⟩ :=
    alone_batchIdFor choices batchIdByGroup entry.bet.casinoGroupId state
  obtain ⟨first, others⟩ := List.forall_mem_cons.mp settleable
  obtain ⟨fresh, distinct⟩ := List.nodup_cons.mp distinct
  rw [← same] at first others
  obtain ⟨id, now, bet, db, ran, wrote⟩ := alone_write faultless (.settleBet entry batchId)
    fun id now => first.run (legs entry List.mem_cons_self) batchId id now
  constructor
  · exact ⟨_, _, (solo_bind_ok drew _).trans (solo_bind_ok wrote _)⟩
  intro result after here
  rw [solo_bind_ok drew, solo_bind_ok wrote] at here
  obtain ⟨_, rfl⟩ := Prod.mk.inj here
  refine ⟨fun other member => legs other (List.mem_cons_of_mem _ member), distinct, ?_⟩
  intro other member
  refine (others other member).other ran fun equal => fresh ?_
  exact List.mem_map.mpr ⟨other, member, equal⟩

/-- A run without faults returns, if no bet is in the way. -/
theorem settleAlone_succeeds (clear : ¬ Obstructed world.db) :
    ∃ count, (settleAlone runtime choices world).1 = .ok count := by
  by_cases nothing : gradedOldest runtime world choices = []
  · exact ⟨0, by rw [settleAlone_idle faultless nothing]⟩
  obtain ⟨later, runs⟩ := solo_settleBatch runtime world faultless
  have each : ∀ entry ∈ gradedOldest runtime world choices,
      entry.bet.legs ≠ [] ∧ Settleable world.db entry.bet.id entry.betResult := by
    intro entry member
    obtain ⟨betId, _, passes⟩ := List.mem_filterMap.mp member
    exact settleable_of_grade clear passes
  have persists : (persistGradedSettlements (gradedOldest runtime world choices)).Succeeds
      (inOrder choices) (world, later) :=
    succeeds_persist faultless (fun entry member => (each entry member).1) nodup_gradedOldest
      fun entry member => (each entry member).2
  have applies : (applySettlements (gradedOldest runtime world choices)).Succeeds (inOrder choices)
      (world, later) :=
    persists.bind fun _ _ _ => (succeeds_flushes faultless).bind fun _ after _ => .pure () after
  obtain ⟨count, after, returned⟩ := applies.bind fun _ after _ =>
    .pure (gradedOldest runtime world choices).length after
  unfold settleAlone
  rw [runs, if_neg nothing]
  exact ⟨count, by rw [returned]⟩

/-- It settles a bet then, if one of those that it looks at can be graded. -/
theorem settles_of_oldestGradable (clear : ¬ Obstructed world.db)
    (gradable : OldestGradable runtime choices world) :
    ∃ betId, Settles world.db (settleAlone runtime choices world).2.db betId := by
  obtain ⟨count, returned⟩ := settleAlone_succeeds faultless clear
  exact (settlesSome_iff faultless).mpr gradable count returned

end Run

end SportsBetting
