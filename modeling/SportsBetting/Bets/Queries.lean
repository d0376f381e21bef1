import SportsBetting.Database
import SportsBetting.Settlement.LegOutcome
import SportsBetting.Wallet.Transaction

/-!
# The queries on bets and outbox rows

Each query is one transaction. An update by id fails where the row is gone.
-/

namespace SportsBetting

open Numeral

/-- When a query runs, and how it orders rows that were created at the same time. -/
structure Moment where
  now : Time
  rank : String → ℕ

section Views

variable (db : Database) (moment : Moment)

def isDue (now : Time) (type : OutboxType) (row : WalletOutbox) : Bool :=
  row.type = type && row.status = .pending &&
    match row.nextRetryAt with
    | none => true
    | some time => time ≤ now

/-- The due rows of a type that were due at `now`, oldest first. -/
def dueRows (now : Time) (type : OutboxType) : List WalletOutbox :=
  (db.ledger.walletOutbox.rows.filter (isDue now type)).insertionSort fun first second =>
    first.createdAt < second.createdAt ∨
      first.createdAt = second.createdAt ∧ moment.rank first.betId ≤ moment.rank second.betId

theorem mem_dueRows {db : Database} {moment : Moment} {now : Time} {type : OutboxType}
    {row : WalletOutbox} :
    row ∈ dueRows db moment now type ↔ row ∈ db.ledger.walletOutbox ∧ isDue now type row = true := by
  simp [dueRows, Table.mem_rows]

/-- The accepted bets among these, oldest first. -/
def acceptedBets (chosen : Bet → Bool) : List Bet :=
  (db.ledger.bets.rows.filter fun bet => bet.status = .accepted && chosen bet).insertionSort
    fun first second => first.createdAt < second.createdAt ∨
      first.createdAt = second.createdAt ∧ moment.rank first.id ≤ moment.rank second.id

theorem nodup_acceptedBets (chosen : Bet → Bool) :
    ((acceptedBets db moment chosen).map Bet.id).Nodup := by
  have same := (List.perm_insertionSort (fun first second : Bet =>
    first.createdAt < second.createdAt ∨
      first.createdAt = second.createdAt ∧ moment.rank first.id ≤ moment.rank second.id)
    (db.ledger.bets.rows.filter fun bet => bet.status = .accepted && chosen bet)).map Bet.id
  exact same.nodup_iff.mpr ((List.Sublist.map Bet.id List.filter_sublist).nodup db.ledger.bets.unique)

end Views

/-- A row that a transaction needs. -/
def found {α : Type} : Option α → Except Failure α
  | some row => .ok row
  | none => .error .database

theorem found_ok {α : Type} {row? : Option α} {row : α} :
    found row? = .ok row ↔ row? = some row := by
  cases row? with
  | none => simp [found]
  | some other => simp [found]

section Placement

/-- The outbox row that is created with its bet. -/
def reserveRow (bet : Bet) (transactionCode : TransactionCode) : WalletOutbox where
  betId := bet.id
  casinoGroupId := bet.casinoGroupId
  type := .walletReserve
  transactionCode := transactionCode
  batchId := none
  payload := none
  status := .pending
  attempts := 0
  lastError := none
  nextRetryAt := none
  createdAt := bet.createdAt

/-- What a placement stores of a bet; the other columns start at their defaults. -/
structure BetData where
  casinoGroupId : String
  userId : String
  username : String
  idempotencyKey : String
  stake : Numeric 12 2
  currency : String
  combinedOdds : Numeric 12 3
  potentialPayout : Numeric 14 2
  legs : List BetLeg

def BetData.bet (data : BetData) (id : String) (now : Time) : Bet where
  id := id
  casinoGroupId := data.casinoGroupId
  userId := data.userId
  username := data.username
  idempotencyKey := data.idempotencyKey
  stake := data.stake
  currency := data.currency
  status := .pending
  combinedOdds := data.combinedOdds
  potentialPayout := data.potentialPayout
  walletReservationId := none
  rejectionReason := none
  payoutAmount := none
  settledAt := none
  settlementNote := none
  createdAt := now
  legs := data.legs

/-- Create the bet with its legs and its outbox row, under a generated id. -/
def createBet (data : BetData) (transactionCode : TransactionCode) (id : String) (now : Time)
    (db : Database) : Except Failure (Bet × Database) :=
  let bet := data.bet id now
  if bet.legs.any fun leg => (db.catalog.selections.get? leg.selectionId).isNone then
    .error .database
  else
    match db.ledger.createBet bet (reserveRow bet transactionCode) with
    | none => .error .uniqueViolation
    | some ledger => .ok (bet, { db with ledger })

end Placement

section Debit

def acceptedAs (reservation : Reservation) (bet : Bet) : Bet :=
  { bet with
    status := .accepted
    walletReservationId := some reservation
    rejectionReason := none }

def rejectedFor (reason : String) (bet : Bet) : Bet :=
  { bet with status := .rejected, rejectionReason := some reason }

def completed (row : WalletOutbox) : WalletOutbox :=
  { row with status := .completed, lastError := none }

def failedWith (reason : String) (row : WalletOutbox) : WalletOutbox :=
  { row with status := .failed, lastError := some reason }

def acceptBet (betId : String) (reservation : Reservation) (db : Database) :
    Except Failure (Bet × Database) := do
  let bet ← found (db.ledger.bets.get? betId)
  let _ ← found (db.ledger.outboxOf betId .walletReserve)
  return (acceptedAs reservation bet, { db with
    ledger := (db.ledger.modifyBets (fun bet => bet.id = betId) (acceptedAs reservation)).modifyOutbox
      (fun row => row.key = (betId, .walletReserve)) completed })

def rejectBet (betId reason : String) (db : Database) : Except Failure (Bet × Database) := do
  let bet ← found (db.ledger.bets.get? betId)
  let _ ← found (db.ledger.outboxOf betId .walletReserve)
  return (rejectedFor reason bet, { db with
    ledger := (db.ledger.modifyBets (fun bet => bet.id = betId) (rejectedFor reason)).modifyOutbox
      (fun row => row.key = (betId, .walletReserve)) (failedWith reason) })

end Debit

section Delivery

def setTransactionCode (key : String × OutboxType) (code : TransactionCode) (db : Database) :
    Except Failure (Unit × Database) :=
  if db.ledger.walletOutbox.rows.any fun other => other.transactionCode = code && other.key ≠ key then
    .error .uniqueViolation
  else do
    let _ ← found (db.ledger.walletOutbox.get? key)
    return ((), { db with
      ledger := db.ledger.modifyOutbox (fun row => row.key = key)
        fun row => { row with transactionCode := code } })

/-- The next attempt waits one minute more after each failure, up to fifteen. -/
def delayed (attempts : ℕ) (message : String) (now : Time) (row : WalletOutbox) : WalletOutbox :=
  let delaySeconds := min (60 * (attempts + 1)) 900
  { row with
    attempts := attempts + 1
    lastError := some message
    nextRetryAt := some (now + delaySeconds * 1000) }

def scheduleRetry (key : String × OutboxType) (attempts : ℕ) (message : String) (now : Time)
    (db : Database) : Except Failure (Unit × Database) := do
  let _ ← found (db.ledger.walletOutbox.get? key)
  return ((), { db with
    ledger := db.ledger.modifyOutbox (fun row => row.key = key) (delayed attempts message now) })

def completeRow (key : String × OutboxType) (db : Database) : Except Failure (Unit × Database) := do
  let _ ← found (db.ledger.walletOutbox.get? key)
  return ((), { db with
    ledger := db.ledger.modifyOutbox (fun row => row.key = key) completed })

def assignBatch (keys : List (String × OutboxType)) (batchId : ℕ) (db : Database) : Database :=
  { db with
    ledger := db.ledger.modifyOutbox (fun row => row.key ∈ keys)
      fun row => { row with batchId := some batchId } }

def completeBatch (keys : List (String × OutboxType)) (batchId : ℕ) (db : Database) : Database :=
  { db with
    ledger := db.ledger.modifyOutbox (fun row => row.key ∈ keys)
      fun row => { completed row with batchId := some batchId } }

def pendingSettlementOf (casinoGroupId : String) (row : WalletOutbox) : Bool :=
  row.casinoGroupId = casinoGroupId && row.type = .walletSettle && row.status = .pending

/-- Staff retry: the pending settlement rows of the group are due at once. -/
def clearRetries (casinoGroupId : String) (db : Database) : Database :=
  { db with
    ledger := db.ledger.modifyOutbox (pendingSettlementOf casinoGroupId)
      fun row => { row with nextRetryAt := none } }

end Delivery

section Crediting

/-- A bet graded as it was read. -/
structure GradedBet where
  bet : Bet
  legResults : List LegResult
  betResult : WalletSettlementOutcome
  payoutAmount : Numeric 14 2

def WalletSettlementOutcome.status : WalletSettlementOutcome → BetStatus
  | .won => .won
  | .lost => .lost
  | .void => .void

def toLegOutcome : LegResult → BetLegOutcome
  | .won => .won
  | .lost => .lost
  | .void => .void

/-- Legs keep their place in the bet, which stands for their id. -/
def setLegOutcomes (outcomes : List (ℕ × BetLegOutcome)) (legs : List BetLeg) : List BetLeg :=
  legs.map fun leg =>
    match outcomes.lookup leg.legOrder with
    | some outcome => { leg with outcome }
    | none => leg

/-- What settling and voiding write to the bet. -/
structure Credit where
  betId : String
  status : BetStatus
  payoutAmount : Numeric 14 2
  settlementNote : Option String
  legOutcomes : List (ℕ × BetLegOutcome)
  row : WalletOutbox

def Credit.update (credit : Credit) (now : Time) (bet : Bet) : Bet :=
  { bet with
    status := credit.status
    payoutAmount := some credit.payoutAmount
    settledAt := some now
    settlementNote := credit.settlementNote
    legs := setLegOutcomes credit.legOutcomes bet.legs }

/-- Update the bet and its legs, and create the credit row. -/
def Credit.commit (credit : Credit) (now : Time) (db : Database) :
    Except Failure (Bet × Database) := do
  let bet ← found (db.ledger.bets.get? credit.betId)
  let updated := db.ledger.modifyBets (fun bet => bet.id = credit.betId) (credit.update now)
  match updated.createOutbox credit.row with
  | none => .error .uniqueViolation
  | some ledger => .ok (credit.update now bet, { db with ledger })

def creditRow (bet : Bet) (casinoGroupId : String) (type : OutboxType) (batchId : Option ℕ)
    (transaction : WalletTransactionRequest) (now : Time) : WalletOutbox where
  betId := bet.id
  casinoGroupId := casinoGroupId
  type := type
  transactionCode := transaction.transactionCode
  batchId := batchId
  payload := some transaction
  status := .pending
  attempts := 0
  lastError := none
  nextRetryAt := none
  createdAt := now

/-- The settlement of one graded bet. -/
def settlementCredit (graded : GradedBet) (batchId : ℕ) (now : Time) : Except Failure Credit := do
  let transaction ← buildSettlementTransaction graded.bet graded.betResult graded.payoutAmount.text
    (.settlement graded.bet.id graded.betResult) now
  return {
    betId := graded.bet.id
    status := graded.betResult.status
    payoutAmount := graded.payoutAmount
    settlementNote := none
    legOutcomes := (graded.bet.legs.map BetLeg.legOrder).zip (graded.legResults.map toLegOutcome)
    row := creditRow graded.bet graded.bet.casinoGroupId .walletSettle (some batchId) transaction now }

/-- The stake as an amount of the wider payout column. -/
def stakeAmount (stake : Numeric 12 2) : Numeric 14 2 :=
  ⟨stake.units, stake.bound.trans (by decide)⟩

/-- The refund of a bet that staff void. -/
def staffVoidCredit (bet : Bet) (casinoGroupId reason : String) (now : Time) :
    Except Failure Credit := do
  let transaction ← buildSettlementTransaction bet .void bet.stake.text (.staffVoid bet.id) now
  return {
    betId := bet.id
    status := .void
    payoutAmount := stakeAmount bet.stake
    settlementNote := some ("Voided by staff: " ++ reason)
    legOutcomes := bet.legs.map fun leg => (leg.legOrder, .void)
    row := creditRow bet casinoGroupId .walletStaffVoid none transaction now }

def settleBet (graded : GradedBet) (batchId : ℕ) (now : Time) (db : Database) :
    Except Failure (Bet × Database) := do
  let credit ← settlementCredit graded batchId now
  credit.commit now db

def voidBet (bet : Bet) (casinoGroupId reason : String) (now : Time) (db : Database) :
    Except Failure (Bet × Database) := do
  let credit ← staffVoidCredit bet casinoGroupId reason now
  credit.commit now db

end Crediting

end SportsBetting
