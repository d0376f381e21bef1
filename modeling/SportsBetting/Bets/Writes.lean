import SportsBetting.Bets.Queries

/-!
# The transactions on bets and outbox rows, and what they do to an entry

A transaction is an atomic step. Except for the updates of many rows, each one
changes the entry of a single bet.
-/

namespace SportsBetting

open Ledger

inductive Write : Type → Type where
  | createBet (data : BetData) (transactionCode : TransactionCode) : Write Bet
  | acceptBet (betId : String) (reservation : Reservation) : Write Bet
  | rejectBet (betId reason : String) : Write Bet
  | settleBet (graded : GradedBet) (batchId : ℕ) : Write Bet
  | voidBet (bet : Bet) (casinoGroupId reason : String) : Write Bet
  | setTransactionCode (key : String × OutboxType) (code : TransactionCode) : Write Unit
  | scheduleRetry (key : String × OutboxType) (attempts : ℕ) (message : String) : Write Unit
  | completeRow (key : String × OutboxType) : Write Unit
  | assignBatch (keys : List (String × OutboxType)) (batchId : ℕ) : Write Unit
  | completeBatch (keys : List (String × OutboxType)) (batchId : ℕ) : Write Unit
  | clearRetries (casinoGroupId : String) : Write Unit
  | recordAudit (entry : AuditEntry) : Write Unit

/-- Carry a transaction out, with the id of a new bet and the time. -/
def Write.run (id : String) (now : Time) (db : Database) {Reply : Type} :
    Write Reply → Except Failure (Reply × Database)
  | .createBet data transactionCode => SportsBetting.createBet data transactionCode id now db
  | .acceptBet betId reservation => SportsBetting.acceptBet betId reservation db
  | .rejectBet betId reason => SportsBetting.rejectBet betId reason db
  | .settleBet graded batchId => SportsBetting.settleBet graded batchId now db
  | .voidBet bet casinoGroupId reason => SportsBetting.voidBet bet casinoGroupId reason now db
  | .setTransactionCode key code => SportsBetting.setTransactionCode key code db
  | .scheduleRetry key attempts message => SportsBetting.scheduleRetry key attempts message now db
  | .completeRow key => SportsBetting.completeRow key db
  | .assignBatch keys batchId => .ok ((), SportsBetting.assignBatch keys batchId db)
  | .completeBatch keys batchId => .ok ((), SportsBetting.completeBatch keys batchId db)
  | .clearRetries casinoGroupId => .ok ((), SportsBetting.clearRetries casinoGroupId db)
  | .recordAudit entry => .ok ((), { db with audit := db.audit ++ [entry] })

section Single

variable {db after : Database} {bet : Bet}

theorem createBet_ok {data : BetData} {code : TransactionCode} {id : String} {now : Time}
    (created : createBet data code id now db = .ok (bet, after)) :
    bet = data.bet id now ∧ (db.ledger.entry id).bet = none ∧
    (db.ledger.entry id).row .walletReserve = none ∧
    after.ledger.entry = Function.update db.ledger.entry id
      (((db.ledger.entry id).setBet bet).setRow (reserveRow bet code)) := by
  unfold createBet at created
  dsimp only at created
  split at created
  · cases created
  · split at created
    · cases created
    · next ledger stored =>
        obtain ⟨rfl, rfl⟩ := Prod.mk.inj (Except.ok.inj created)
        obtain ⟨fresh, free, entries⟩ := createBet_some rfl stored
        exact ⟨rfl, fresh, free, entries⟩

/-- Updating a bet with its debit row. -/
private theorem entry_decide {ledger : Ledger} {betId : String} {old : Bet} {row : WalletOutbox}
    (onBet : Bet → Bet) (onRow : WalletOutbox → WalletOutbox)
    (keepsId : ∀ bet, (onBet bet).id = bet.id)
    (keepsPlacement : ∀ bet, (onBet bet).placement = bet.placement)
    (keepsKey : ∀ row, (onRow row).key = row.key)
    (stored : (ledger.entry betId).bet = some old)
    (reserved : (ledger.entry betId).row .walletReserve = some row) :
    ((ledger.modifyBets (fun bet => bet.id = betId) onBet keepsId keepsPlacement).modifyOutbox
        (fun row => row.key = (betId, .walletReserve)) onRow keepsKey).entry =
      Function.update ledger.entry betId
        (((ledger.entry betId).setBet (onBet old)).setRow (onRow row)) := by
  have first := entry_modifyBet onBet keepsId keepsPlacement stored
  rw [entry_modifyRow (betId, .walletReserve) onRow keepsKey]
  · rw [first, Function.update_idem, Function.update_self]
  · rw [first, Function.update_self, Entry.setBet_row]
    exact reserved

theorem acceptBet_ok {betId : String} {reservation : Reservation}
    (accepted : acceptBet betId reservation db = .ok (bet, after)) :
    ∃ old row, (db.ledger.entry betId).bet = some old ∧
      (db.ledger.entry betId).row .walletReserve = some row ∧ bet = acceptedAs reservation old ∧
      after.ledger.entry = Function.update db.ledger.entry betId
        (((db.ledger.entry betId).setBet (acceptedAs reservation old)).setRow (completed row)) := by
  unfold acceptBet at accepted
  obtain ⟨old, stored, accepted⟩ := Except.bind_eq_ok.mp accepted
  obtain ⟨row, reserved, accepted⟩ := Except.bind_eq_ok.mp accepted
  obtain ⟨rfl, rfl⟩ := Prod.mk.inj (Except.ok.inj accepted)
  rw [found_ok] at stored reserved
  rw [outboxOf_eq_row] at reserved
  exact ⟨old, row, stored, reserved, rfl, entry_decide _ _ _ _ _ stored reserved⟩

theorem rejectBet_ok {betId reason : String}
    (rejected : rejectBet betId reason db = .ok (bet, after)) :
    ∃ old row, (db.ledger.entry betId).bet = some old ∧
      (db.ledger.entry betId).row .walletReserve = some row ∧ bet = rejectedFor reason old ∧
      after.ledger.entry = Function.update db.ledger.entry betId
        (((db.ledger.entry betId).setBet (rejectedFor reason old)).setRow
          (failedWith reason row)) := by
  unfold rejectBet at rejected
  obtain ⟨old, stored, rejected⟩ := Except.bind_eq_ok.mp rejected
  obtain ⟨row, reserved, rejected⟩ := Except.bind_eq_ok.mp rejected
  obtain ⟨rfl, rfl⟩ := Prod.mk.inj (Except.ok.inj rejected)
  rw [found_ok] at stored reserved
  rw [outboxOf_eq_row] at reserved
  exact ⟨old, row, stored, reserved, rfl, entry_decide _ _ _ _ _ stored reserved⟩

/-- A credit needs its bet and a free place for its row. -/
theorem Credit.commit_ok {credit : Credit} {now : Time} (own : credit.row.betId = credit.betId)
    (committed : credit.commit now db = .ok (bet, after)) :
    ∃ old, (db.ledger.entry credit.betId).bet = some old ∧
      (db.ledger.entry credit.betId).row credit.row.type = none ∧ bet = credit.update now old ∧
      after.ledger.entry = Function.update db.ledger.entry credit.betId
        (((db.ledger.entry credit.betId).setBet (credit.update now old)).setRow credit.row) := by
  unfold Credit.commit at committed
  obtain ⟨old, stored, committed⟩ := Except.bind_eq_ok.mp committed
  rw [found_ok] at stored
  dsimp only at committed
  split at committed
  · cases committed
  · next ledger created =>
      obtain ⟨rfl, rfl⟩ := Prod.mk.inj (Except.ok.inj committed)
      obtain ⟨free, entries⟩ := createOutbox_some created
      have first := entry_modifyBet (credit.update now) (fun _ => rfl) (fun _ => rfl) stored
      rw [own, first, Function.update_self] at free
      rw [own, first, Function.update_idem, Function.update_self] at entries
      exact ⟨old, stored, by simpa using free, rfl, entries⟩

theorem settlementCredit_ok {graded : GradedBet} {batchId : ℕ} {now : Time} {credit : Credit}
    (built : settlementCredit graded batchId now = .ok credit) :
    ∃ transaction,
      buildSettlementTransaction graded.bet graded.betResult graded.payoutAmount.text
        (.settlement graded.bet.id graded.betResult) now = .ok transaction ∧
      credit.betId = graded.bet.id ∧ credit.status = graded.betResult.status ∧
      credit.payoutAmount = graded.payoutAmount ∧
      credit.row = creditRow graded.bet graded.bet.casinoGroupId .walletSettle (some batchId)
        transaction now := by
  unfold settlementCredit at built
  obtain ⟨transaction, made, built⟩ := Except.bind_eq_ok.mp built
  obtain rfl := Except.pure_eq_ok.mp built
  exact ⟨transaction, made, rfl, rfl, rfl, rfl⟩

theorem staffVoidCredit_ok {bet : Bet} {casinoGroupId reason : String} {now : Time}
    {credit : Credit} (built : staffVoidCredit bet casinoGroupId reason now = .ok credit) :
    ∃ transaction,
      buildSettlementTransaction bet .void bet.stake.text (.staffVoid bet.id) now =
        .ok transaction ∧
      credit.betId = bet.id ∧ credit.status = .void ∧
      credit.payoutAmount = stakeAmount bet.stake ∧
      credit.row = creditRow bet casinoGroupId .walletStaffVoid none transaction now := by
  unfold staffVoidCredit at built
  obtain ⟨transaction, made, built⟩ := Except.bind_eq_ok.mp built
  obtain rfl := Except.pure_eq_ok.mp built
  exact ⟨transaction, made, rfl, rfl, rfl, rfl⟩

/-- The row of a credit belongs to its bet. -/
theorem settlementCredit_own {graded : GradedBet} {batchId : ℕ} {now : Time} {credit : Credit}
    (built : settlementCredit graded batchId now = .ok credit) :
    credit.row.betId = credit.betId := by
  obtain ⟨transaction, _, own, _, _, row⟩ := settlementCredit_ok built
  rw [row, own]
  rfl

theorem staffVoidCredit_own {bet : Bet} {casinoGroupId reason : String} {now : Time}
    {credit : Credit} (built : staffVoidCredit bet casinoGroupId reason now = .ok credit) :
    credit.row.betId = credit.betId := by
  obtain ⟨transaction, _, own, _, _, row⟩ := staffVoidCredit_ok built
  rw [row, own]
  rfl

end Single

section Rows

/-- What a transaction does to outbox rows that are there already. -/
def Write.onRow (now : Time) {Reply : Type} : Write Reply → WalletOutbox → WalletOutbox
  | .setTransactionCode key code, row =>
      if row.key = key then { row with transactionCode := code } else row
  | .scheduleRetry key attempts message, row =>
      if row.key = key then delayed attempts message now row else row
  | .completeRow key, row => if row.key = key then completed row else row
  | .assignBatch keys batchId, row => if row.key ∈ keys then { row with batchId := some batchId } else row
  | .completeBatch keys batchId, row =>
      if row.key ∈ keys then { completed row with batchId := some batchId } else row
  | .clearRetries casinoGroupId, row =>
      if pendingSettlementOf casinoGroupId row then { row with nextRetryAt := none } else row
  | _, row => row

/-- Transactions that leave bets alone and create no row. -/
def Write.RowsOnly {Reply : Type} : Write Reply → Prop
  | .createBet .. | .acceptBet .. | .rejectBet .. | .settleBet .. | .voidBet .. => False
  | _ => True

private theorem entry_onRow {ledger : Ledger} {chosen : WalletOutbox → Bool}
    {change onRow : WalletOutbox → WalletOutbox} {keeps : ∀ row, (change row).key = row.key}
    (same : ∀ row, (if chosen row then change row else row) = onRow row) (betId : String) :
    (ledger.modifyOutbox chosen change keeps).entry betId =
      (ledger.entry betId).map (fun bet => bet) onRow := by
  rw [entry_modifyOutbox, funext same]

theorem Write.entry_of_rowsOnly {id : String} {now : Time} {db after : Database} {Reply : Type}
    {write : Write Reply} {reply : Reply} (ran : write.run id now db = .ok (reply, after))
    (rowsOnly : write.RowsOnly) (betId : String) :
    after.ledger.entry betId =
      (db.ledger.entry betId).map (fun bet => bet) (write.onRow now) := by
  cases write with
  | createBet | acceptBet | rejectBet | settleBet | voidBet => exact rowsOnly.elim
  | setTransactionCode key code =>
      simp only [run, SportsBetting.setTransactionCode] at ran
      split at ran
      · cases ran
      · obtain ⟨row, _, ran⟩ := Except.bind_eq_ok.mp ran
        obtain ⟨_, rfl⟩ := Prod.mk.inj (Except.ok.inj ran)
        exact entry_onRow (fun row => by simp [onRow]) betId
  | scheduleRetry key attempts message =>
      obtain ⟨row, _, ran⟩ := Except.bind_eq_ok.mp ran
      obtain ⟨_, rfl⟩ := Prod.mk.inj (Except.ok.inj ran)
      exact entry_onRow (fun row => by simp [onRow]) betId
  | completeRow key =>
      obtain ⟨row, _, ran⟩ := Except.bind_eq_ok.mp ran
      obtain ⟨_, rfl⟩ := Prod.mk.inj (Except.ok.inj ran)
      exact entry_onRow (fun row => by simp [onRow]) betId
  | assignBatch keys batchId =>
      obtain ⟨_, rfl⟩ := Prod.mk.inj (Except.ok.inj ran)
      exact entry_onRow (fun row => by simp [onRow]) betId
  | completeBatch keys batchId =>
      obtain ⟨_, rfl⟩ := Prod.mk.inj (Except.ok.inj ran)
      exact entry_onRow (fun row => by simp [onRow]) betId
  | clearRetries casinoGroupId =>
      obtain ⟨_, rfl⟩ := Prod.mk.inj (Except.ok.inj ran)
      exact entry_onRow (fun row => by simp [onRow]) betId
  | recordAudit entry =>
      obtain ⟨_, rfl⟩ := Prod.mk.inj (Except.ok.inj ran)
      exact (Entry.map_id _).symm

end Rows

section Beside

variable {id : String} {now : Time} {db after : Database} {Reply : Type}

/-- What a transaction appends to the audit log. -/
def Write.entries {Reply : Type} : Write Reply → List AuditEntry
  | .recordAudit entry => [entry]
  | _ => []

theorem Credit.commit_beside {credit : Credit} {bet : Bet}
    (committed : credit.commit now db = .ok (bet, after)) :
    ∃ ledger, after = { db with ledger } := by
  unfold Credit.commit at committed
  obtain ⟨old, _, committed⟩ := Except.bind_eq_ok.mp committed
  dsimp only at committed
  split at committed
  · cases committed
  · next ledger _ =>
      obtain ⟨_, rfl⟩ := Prod.mk.inj (Except.ok.inj committed)
      exact ⟨ledger, rfl⟩

/-- Transactions on bets change the ledger and the audit log only. -/
theorem Write.run_beside {write : Write Reply} {reply : Reply}
    (ran : write.run id now db = .ok (reply, after)) :
    ∃ ledger, after = { db with ledger, audit := db.audit ++ write.entries } := by
  have beside : ∀ ledger : Ledger, { db with ledger } =
      { db with ledger, audit := db.audit ++ [] } := fun ledger => by rw [List.append_nil]
  cases write with
  | createBet data code =>
      simp only [Write.run, SportsBetting.createBet] at ran
      split at ran
      · cases ran
      · split at ran
        · cases ran
        · obtain ⟨_, rfl⟩ := Prod.mk.inj (Except.ok.inj ran)
          exact ⟨_, beside _⟩
  | acceptBet | rejectBet =>
      obtain ⟨_, _, ran⟩ := Except.bind_eq_ok.mp ran
      obtain ⟨_, _, ran⟩ := Except.bind_eq_ok.mp ran
      obtain ⟨_, rfl⟩ := Prod.mk.inj (Except.ok.inj ran)
      exact ⟨_, beside _⟩
  | settleBet | voidBet =>
      obtain ⟨_, _, committed⟩ := Except.bind_eq_ok.mp ran
      obtain ⟨ledger, rfl⟩ := Credit.commit_beside committed
      exact ⟨ledger, beside ledger⟩
  | setTransactionCode =>
      simp only [Write.run, SportsBetting.setTransactionCode] at ran
      split at ran
      · cases ran
      · obtain ⟨_, _, ran⟩ := Except.bind_eq_ok.mp ran
        obtain ⟨_, rfl⟩ := Prod.mk.inj (Except.ok.inj ran)
        exact ⟨_, beside _⟩
  | scheduleRetry | completeRow =>
      obtain ⟨_, _, ran⟩ := Except.bind_eq_ok.mp ran
      obtain ⟨_, rfl⟩ := Prod.mk.inj (Except.ok.inj ran)
      exact ⟨_, beside _⟩
  | assignBatch | completeBatch | clearRetries =>
      obtain ⟨_, rfl⟩ := Prod.mk.inj (Except.ok.inj ran)
      exact ⟨_, beside _⟩
  | recordAudit entry =>
      obtain ⟨_, rfl⟩ := Prod.mk.inj (Except.ok.inj ran)
      exact ⟨db.ledger, rfl⟩

end Beside

section Checks

/-- The bet of the entry is accepted. -/
def Ledger.Entry.isAccepted (entry : Entry) : Bool :=
  match entry.bet with
  | some bet => bet.status = .accepted
  | none => false

theorem Ledger.Entry.isAccepted_iff {entry : Entry} :
    entry.isAccepted = true ↔ ∃ bet, entry.bet = some bet ∧ bet.status = .accepted := by
  unfold isAccepted
  cases entry.bet with
  | none => simp
  | some bet => simp

theorem WalletSettlementOutcome.status_ne_accepted (outcome : WalletSettlementOutcome) :
    outcome.status ≠ .accepted := by
  cases outcome <;> simp [status]

end Checks

end SportsBetting
