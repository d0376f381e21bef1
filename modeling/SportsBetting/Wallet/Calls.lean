import SportsBetting.Wallet.Outbox

/-!
# What the outbox calls

Delivery reads, posts, and writes only to outbox rows that are there. A debit
attempt also decides its bet. Neither places a bet or credits one, or writes to the
audit log.
-/

namespace SportsBetting

open Async Program WalletHttpClient WalletOutboxService

/-- Calls that leave bets alone and create no row. -/
def BettingCall.Delivering {Reply : Type} : BettingCall Reply → Prop
  | .write transaction => transaction.RowsOnly
  | _ => True

/-- Such calls that do not write to the audit log either. -/
def BettingCall.Posting {Reply : Type} : BettingCall Reply → Prop
  | .write (.recordAudit _) => False
  | request => request.Delivering

/-- Calls that neither create nor credit a bet. -/
def BettingCall.Debiting {Reply : Type} : BettingCall Reply → Prop
  | .write (.createBet ..) | .write (.settleBet ..) | .write (.voidBet ..) => False
  | _ => True

theorem BettingCall.Delivering.debiting {Reply : Type} {request : BettingCall Reply}
    (delivering : request.Delivering) : request.Debiting := by
  cases request with
  | write transaction => cases transaction <;> first | exact delivering.elim | trivial
  | read | randomUUID | getBalance | postTransaction | postBatch => trivial

variable {α : Type}

section Delivery

theorem BettingCall.Posting.delivering {Reply : Type} {request : BettingCall Reply}
    (posting : request.Posting) : request.Delivering := by
  cases request with
  | write transaction =>
      cases transaction with
      | recordAudit => exact posting.elim
      | _ => exact posting
  | read | randomUUID | getBalance | postTransaction | postBatch => trivial

theorem delivering_of_posting {program : Betting α}
    (posting : program.CallsOnly BettingCall.Posting) :
    program.CallsOnly BettingCall.Delivering :=
  posting.mono fun _ => BettingCall.Posting.delivering

theorem transact_delivering {write : Write α} (rowsOnly : write.RowsOnly) :
    (transact write).CallsOnly BettingCall.Delivering :=
  (callsOnly_call _).mpr rowsOnly

theorem read_posting (look : Database → Moment → α) :
    (Program.call (.read look) : Betting α).CallsOnly BettingCall.Posting :=
  (callsOnly_call _).mpr trivial

theorem view_posting (look : Database → α) : (view look).CallsOnly BettingCall.Posting :=
  read_posting _

theorem transact_posting {write : Write α} (posting : (BettingCall.write write).Posting) :
    (transact write).CallsOnly BettingCall.Posting :=
  (callsOnly_call _).mpr posting

theorem randomUUID_posting :
    (Program.call .randomUUID : Betting ℕ).CallsOnly BettingCall.Posting :=
  (callsOnly_call _).mpr trivial

theorem requireWalletConfig_posting (casinoGroupId : String) :
    (requireWalletConfig casinoGroupId).CallsOnly BettingCall.Posting := by
  apply CallsOnly.bind (view_posting _)
  intro config
  cases config <;> trivial

theorem postTransaction_posting (request : WalletTransactionRequest) :
    (WalletHttpClient.postTransaction request).CallsOnly BettingCall.Posting := by
  apply CallsOnly.bind (requireWalletConfig_posting _)
  intro _
  exact CallsOnly.bind ((callsOnly_call _).mpr trivial) fun _ => trivial

theorem postTransactionBatch_posting (casinoGroupId : String) (batchId : ℕ)
    (entries : List WalletOutbox) :
    (postTransactionBatch casinoGroupId batchId entries).CallsOnly BettingCall.Posting := by
  apply CallsOnly.bind (requireWalletConfig_posting _)
  intro _
  apply CallsOnly.bind (callsOnly_done _)
  intro transactions
  exact CallsOnly.bind ((callsOnly_call _).mpr trivial) fun _ => trivial

theorem scheduleRetry_posting (row : WalletOutbox) (failure : Failure) :
    (WalletOutboxService.scheduleRetry row failure).CallsOnly BettingCall.Posting :=
  transact_posting trivial

theorem deliverBatch_posting (casinoGroupId : String) (batchId : ℕ)
    (entries : List WalletOutbox) :
    (deliverBatch casinoGroupId batchId entries).CallsOnly BettingCall.Posting := by
  apply CallsOnly.handle
  · apply CallsOnly.bind (postTransactionBatch_posting _ _ _)
    intro _
    exact CallsOnly.bind (transact_posting trivial) fun _ => trivial
  · intro failure
    apply CallsOnly.bind
    · exact CallsOnly.foldlM (fun _ entry => scheduleRetry_posting entry failure) entries ()
    · exact fun _ => trivial

theorem flushSettlementBatchForGroup_posting (casinoGroupId : String) :
    (flushSettlementBatchForGroup casinoGroupId).CallsOnly BettingCall.Posting := by
  apply CallsOnly.bind (read_posting _)
  rintro ⟨now, anchor?⟩
  cases anchor? with
  | none => trivial
  | some anchor =>
      apply CallsOnly.bind
      · unfold batchIdOf
        split
        · trivial
        · exact randomUUID_posting
      · intro batchId
        apply CallsOnly.bind (read_posting _)
        intro entries
        split
        · trivial
        · apply CallsOnly.bind
          · unfold assignBatchId
            split
            · exact transact_posting trivial
            · trivial
          · exact fun _ => deliverBatch_posting casinoGroupId batchId entries

theorem flushSettlementBatches_posting :
    flushSettlementBatches.CallsOnly BettingCall.Posting := by
  apply CallsOnly.bind (read_posting _)
  intro groups
  apply CallsOnly.foldlM
  intro batches casinoGroupId
  exact CallsOnly.bind (flushSettlementBatchForGroup_posting _) fun _ => trivial

theorem flushUpTo_posting (casinoGroupId : String) (fuel : ℕ) :
    (flushUpTo casinoGroupId fuel).CallsOnly BettingCall.Posting := by
  induction fuel with
  | zero => trivial
  | succ fuel ih =>
      apply CallsOnly.bind (flushSettlementBatchForGroup_posting _)
      intro sent
      split
      · exact CallsOnly.bind ih fun _ => trivial
      · trivial

theorem processPendingStaffVoids_posting (limit : ℕ) :
    (processPendingStaffVoids limit).CallsOnly BettingCall.Posting := by
  apply CallsOnly.bind (read_posting _)
  intro entries
  apply CallsOnly.foldlM
  intro processed entry
  apply CallsOnly.handle
  · apply CallsOnly.bind
    · apply CallsOnly.bind (callsOnly_done _)
      intro transaction
      apply CallsOnly.bind (postTransaction_posting _)
      exact fun _ => transact_posting trivial
    · exact fun _ => trivial
  · exact fun failure => CallsOnly.bind (scheduleRetry_posting entry failure) fun _ => trivial

end Delivery

section Debits

theorem debiting_of_delivering {program : Betting α}
    (delivering : program.CallsOnly BettingCall.Delivering) :
    program.CallsOnly BettingCall.Debiting :=
  delivering.mono fun _ => BettingCall.Delivering.debiting

theorem debiting_of_posting {program : Betting α}
    (posting : program.CallsOnly BettingCall.Posting) : program.CallsOnly BettingCall.Debiting :=
  debiting_of_delivering (delivering_of_posting posting)

theorem transact_debiting {write : Write α} (allowed : (BettingCall.write write).Debiting) :
    (transact write).CallsOnly BettingCall.Debiting :=
  (callsOnly_call _).mpr allowed

theorem attemptDebit_debiting (bet : Bet) (outbox : WalletOutbox)
    (transaction : WalletTransactionRequest) :
    (attemptDebit bet outbox transaction).CallsOnly BettingCall.Debiting := by
  apply CallsOnly.handle
  · apply CallsOnly.bind (debiting_of_posting (postTransaction_posting _))
    exact fun _ => transact_debiting trivial
  · intro failure
    unfold debitFailed
    split
    · exact transact_debiting trivial
    · apply CallsOnly.bind (debiting_of_posting (scheduleRetry_posting outbox _))
      exact fun _ => trivial

theorem processSingleDebit_debiting (betId : String) :
    (processSingleDebit betId).CallsOnly BettingCall.Debiting := by
  apply CallsOnly.bind (debiting_of_posting (view_posting _))
  intro bet?
  cases bet? with
  | none => trivial
  | some bet =>
      dsimp only
      split
      · trivial
      · apply CallsOnly.bind (debiting_of_posting (view_posting _))
        intro outbox?
        cases outbox? with
        | none => trivial
        | some outbox =>
            dsimp only
            split
            · trivial
            · apply CallsOnly.bind
              · unfold ensureTransactionCode
                split
                · apply CallsOnly.bind (debiting_of_posting randomUUID_posting)
                  intro number
                  exact CallsOnly.bind (transact_debiting trivial) fun _ => trivial
                · trivial
              · intro transactionCode
                apply CallsOnly.bind (callsOnly_done _)
                exact fun transaction => attemptDebit_debiting bet outbox transaction

theorem processPending_debiting : processPending.CallsOnly BettingCall.Debiting := by
  apply CallsOnly.bind
  · apply CallsOnly.bind (debiting_of_posting (read_posting _))
    intro entries
    apply CallsOnly.foldlM
    intro processed entry
    apply CallsOnly.handle
    · exact CallsOnly.bind (processSingleDebit_debiting entry.betId) fun _ => trivial
    · exact fun _ => trivial
  · intro debits
    apply CallsOnly.bind (debiting_of_posting (processPendingStaffVoids_posting _))
    intro staffVoids
    apply CallsOnly.bind (debiting_of_posting flushSettlementBatches_posting)
    exact fun _ => trivial

end Debits

end SportsBetting
