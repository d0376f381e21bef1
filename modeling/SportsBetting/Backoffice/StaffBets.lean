import SportsBetting.Wallet.Outbox

/-!
# Staff actions on bets and their settlement
-/

namespace SportsBetting

open Async

namespace StaffBetsService

def voidedEntry (casinoGroupId betId reason staffUserId : String) : AuditEntry where
  actorType := "staff"
  actorId := staffUserId
  casinoGroupId := casinoGroupId
  action := "bets.voided"
  entityType := "Bet"
  entityId := betId
  before := [("status", "ACCEPTED")]
  after := [("status", "VOID")]
  reason := some reason

/-- Audit entries are written on a best effort. -/
def record (entry : AuditEntry) : Betting Unit :=
  Program.handle (transact (.recordAudit entry)) fun _ => return ()

/-- A reason of the code other needs a note. -/
def lacksNote (reason : String) : Bool :=
  reason.startsWith "other:" && !Text.includes reason " — "

def voidBet (casinoGroupId betId reason staffUserId : String) : Betting Bet := do
  let bet? ← view fun db =>
    (db.ledger.bets.get? betId).filter fun bet => bet.casinoGroupId = casinoGroupId
  match bet? with
  | none => throw (.notFound "Bet not found")
  | some bet =>
      if bet.status ≠ .accepted then throw (.badRequest "Only ACCEPTED bets can be voided")
      else if lacksNote reason then
        throw (.badRequest "A note is required when void reason code is other")
      else do
        let updated ← transact (.voidBet bet casinoGroupId reason)
        record (voidedEntry casinoGroupId betId reason staffUserId)
        return updated

end StaffBetsService

namespace StaffSettlementService

structure Transmission where
  batchesSent : ℕ
  pendingBefore : ℕ
  pendingAfter : ℕ

def countPending (casinoGroupId : String) : Betting ℕ :=
  view fun db => (db.ledger.walletOutbox.rows.filter (pendingSettlementOf casinoGroupId)).length

def retryEntry (casinoGroupId staffUserId : String) (sent : Transmission) : AuditEntry where
  actorType := "staff"
  actorId := staffUserId
  casinoGroupId := casinoGroupId
  action := "settlement.wallet_retry"
  entityType := "CasinoGroup"
  entityId := casinoGroupId
  before := []
  after := [("batchesSent", toString sent.batchesSent),
    ("pendingBefore", toString sent.pendingBefore), ("pendingAfter", toString sent.pendingAfter)]
  reason := some "Staff manually triggered wallet settlement transmission"

/-- Clear the delays of the group and post its pending batches at once. -/
def retryWalletSettlementTransmission (casinoGroupId staffUserId : String) :
    Betting Transmission := do
  let pendingBefore ← countPending casinoGroupId
  if pendingBefore = 0 then return ⟨0, 0, 0⟩
  else do
    transact (.clearRetries casinoGroupId)
    let batchesSent ← WalletOutboxService.flushSettlementBatchesForCasinoGroup casinoGroupId
    let pendingAfter ← countPending casinoGroupId
    let sent : Transmission := ⟨batchesSent, pendingBefore, pendingAfter⟩
    StaffBetsService.record (retryEntry casinoGroupId staffUserId sent)
    return sent

end StaffSettlementService

end SportsBetting
