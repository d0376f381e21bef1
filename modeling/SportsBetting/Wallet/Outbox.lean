import SportsBetting.Bets.World

/-!
# The wallet client and the outbox

Debits and staff voids are delivered one by one, settlements in batches by
casino group. A failed delivery is retried later.
-/

namespace SportsBetting

open Async Wallet

namespace WalletHttpClient

/-- The currency of the group, if its wallet is configured. -/
def getWalletConfig (db : Database) (casinoGroupId : String) : Option String :=
  match db.catalog.casinoGroups.get? casinoGroupId with
  | none => none
  | some group =>
      if group.active ∧ Text.trim (group.walletApiUrl.getD "") ≠ "" ∧
          group.merchantId.getD "" ≠ "" ∧ group.sportsSecret.getD "" ≠ "" then
        some group.defaultCurrency
      else none

def requireWalletConfig (casinoGroupId : String) : Betting String := do
  let config ← view fun db => getWalletConfig db casinoGroupId
  match config with
  | none => throw (.walletReserve "Merchant wallet API not configured" .unavailable)
  | some currency => return currency

/-- The balance with its currency. -/
def getBalance (userCode casinoGroupId : String) : Betting (String × String) := do
  let currency ← requireWalletConfig casinoGroupId
  let reply ← Program.call (.getBalance casinoGroupId userCode)
  let balance ← Program.done (readBalance reply)
  return (balance, currency)

def postTransaction (request : WalletTransactionRequest) : Betting Reservation := do
  let _ ← requireWalletConfig request.casinoGroupId
  let reply ← Program.call (.postTransaction request)
  Program.done (readTransaction request reply)

/-- The stored request. One without its time cannot be sent. -/
def deserializeWalletTransaction (row : WalletOutbox) : Except Failure WalletTransactionRequest :=
  match row.payload with
  | none => .error (.error "Invalid time value")
  | some request => .ok request

def postTransactionBatch (casinoGroupId : String) (batchId : ℕ) (entries : List WalletOutbox) :
    Betting Unit := do
  let _ ← requireWalletConfig casinoGroupId
  let transactions ← Program.done (entries.mapM deserializeWalletTransaction)
  let reply ← Program.call (.postBatch casinoGroupId batchId transactions)
  Program.done (readBatch reply)

end WalletHttpClient

namespace WalletOutboxService

open WalletHttpClient

def DEBIT_BATCH_LIMIT : ℕ := 20

def scheduleRetry (row : WalletOutbox) (failure : Failure) : Betting Unit :=
  transact (.scheduleRetry row.key row.attempts failure.message)

section Debits

/-- A debit attempt stops here on a bet that is decided. -/
def isDecided (bet : Bet) : Bool := bet.status = .accepted || bet.status = .rejected

/-- What a debit attempt checks before it posts: the bet is not decided, and its
debit row is not completed. -/
def debitOpen (entry : Ledger.Entry) : Bool :=
  match entry.bet, entry.reserve with
  | some bet, some row => !isDecided bet && row.status ≠ .completed
  | _, _ => false

/-- The code of the row; a row without one gets a new code first. -/
def ensureTransactionCode (outbox : WalletOutbox) : Betting TransactionCode :=
  if outbox.transactionCode = .empty then do
    let number ← Program.call .randomUUID
    transact (.setTransactionCode outbox.key (.uuid number))
    return .uuid number
  else return outbox.transactionCode

/-- After a failed post or a failed acceptance. -/
def debitFailed (betId : String) (outbox : WalletOutbox) (failure : Failure) : Betting Bet :=
  match failure with
  | .walletReserve message .insufficientFunds => transact (.rejectBet betId message)
  | _ => do
      scheduleRetry outbox failure
      throw failure

def attemptDebit (bet : Bet) (outbox : WalletOutbox) (transaction : WalletTransactionRequest) :
    Betting Bet :=
  Program.handle
    (do
      let reservation ← postTransaction transaction
      transact (.acceptBet bet.id reservation))
    (debitFailed bet.id outbox)

def processSingleDebit (betId : String) : Betting Bet := do
  let bet? ← view fun db => db.ledger.bets.get? betId
  match bet? with
  | none => throw (.error ("Bet " ++ betId ++ " not found"))
  | some bet =>
      if isDecided bet then return bet
      else do
        let outbox? ← view fun db => db.ledger.outboxOf betId .walletReserve
        match outbox? with
        | none => return bet
        | some outbox =>
            if outbox.status = .completed then return bet
            else do
              let transactionCode ← ensureTransactionCode outbox
              let transaction ← Program.done (buildBetDebitTransaction bet transactionCode)
              attemptDebit bet outbox transaction

def processDebitForBet (betId : String) : Betting Bet := processSingleDebit betId

/-- A debit that fails is skipped. -/
def processPendingDebits (limit : ℕ) : Betting ℕ := do
  let entries ← Program.call (.read fun db moment =>
    (dueRows db moment moment.now .walletReserve).take limit)
  entries.foldlM (fun processed entry =>
    Program.handle (do
      let _ ← processSingleDebit entry.betId
      return processed + 1)
      fun _ => return processed) 0

end Debits

section StaffVoids

def deliverStaffVoid (entry : WalletOutbox) : Betting Unit := do
  let transaction ← Program.done (deserializeWalletTransaction entry)
  let _ ← postTransaction transaction
  transact (.completeRow entry.key)

def processPendingStaffVoids (limit : ℕ) : Betting ℕ := do
  let entries ← Program.call (.read fun db moment =>
    (dueRows db moment moment.now .walletStaffVoid).take limit)
  entries.foldlM (fun processed entry =>
    Program.handle (do
      deliverStaffVoid entry
      return processed + 1)
      fun failure => do
        scheduleRetry entry failure
        return processed) 0

end StaffVoids

section SettlementBatches

def retryAll (entries : List WalletOutbox) (failure : Failure) : Betting Unit :=
  entries.foldlM (fun _ entry => scheduleRetry entry failure) ()

/-- Post the rows as one batch and complete them; any failure delays them all. -/
def deliverBatch (casinoGroupId : String) (batchId : ℕ) (entries : List WalletOutbox) :
    Betting Bool :=
  Program.handle
    (do
      postTransactionBatch casinoGroupId batchId entries
      transact (.completeBatch (entries.map WalletOutbox.key) batchId)
      return true)
    fun failure => do
      retryAll entries failure
      return false

/-- The id of the batch that the oldest due row belongs to, or a new one. -/
def batchIdOf (anchor : WalletOutbox) : Betting ℕ :=
  match anchor.batchId with
  | some batchId => return batchId
  | none => Program.call .randomUUID

def assignBatchId (anchor : WalletOutbox) (batchId : ℕ) (entries : List WalletOutbox) :
    Betting Unit :=
  if anchor.batchId = none then transact (.assignBatch (entries.map WalletOutbox.key) batchId)
  else return ()

def flushSettlementBatchForGroup (casinoGroupId : String) : Betting Bool := do
  let (now, anchor?) ← Program.call (.read fun db moment => (moment.now,
    (dueRows db moment moment.now .walletSettle).find? fun row => row.casinoGroupId = casinoGroupId))
  match anchor? with
  | none => return false
  | some anchor => do
      let batchId ← batchIdOf anchor
      let entries ← Program.call (.read fun db moment =>
        (dueRows db moment now .walletSettle).filter fun row =>
          row.casinoGroupId = casinoGroupId && row.batchId = anchor.batchId)
      if entries = [] then return false
      else do
        assignBatchId anchor batchId entries
        deliverBatch casinoGroupId batchId entries

def flushSettlementBatches : Betting ℕ := do
  let groups ← Program.call (.read fun db moment =>
    ((dueRows db moment moment.now .walletSettle).map WalletOutbox.casinoGroupId).dedup.insertionSort
      fun first second => moment.rank first ≤ moment.rank second)
  groups.foldlM (fun batches casinoGroupId => do
    let sent ← flushSettlementBatchForGroup casinoGroupId
    return if sent then batches + 1 else batches) 0

/-- Flush until nothing is due, but at most `fuel` batches. -/
def flushUpTo (casinoGroupId : String) : ℕ → Betting ℕ
  | 0 => return 0
  | fuel + 1 => do
      let sent ← flushSettlementBatchForGroup casinoGroupId
      if sent then do
        let more ← flushUpTo casinoGroupId fuel
        return more + 1
      else return 0

def flushSettlementBatchesForCasinoGroup (casinoGroupId : String) : Betting ℕ :=
  flushUpTo casinoGroupId 100

end SettlementBatches

def processPending : Betting ℕ := do
  let debits ← processPendingDebits DEBIT_BATCH_LIMIT
  let staffVoids ← processPendingStaffVoids DEBIT_BATCH_LIMIT
  let batches ← flushSettlementBatches
  return debits + staffVoids + batches

end WalletOutboxService

end SportsBetting
