import SportsBetting.Bets.Validation
import SportsBetting.Wallet.Outbox

/-!
# Placing a bet

A placement under a key that has a bet answers with that bet, after another
debit attempt where it is still pending.
-/

namespace SportsBetting.BetsService

open Async BetValidation WalletHttpClient

structure UserContext where
  userId : String
  username : String
  casinoGroupId : String
  currency : String

/-- The found selections come back in any order. -/
abbrev readSelections (casinoGroupId : String) (selectionIds : List String) :
    BettingCall (List SelectionRow) :=
  .read fun db moment =>
    (findSelections db casinoGroupId selectionIds).insertionSort fun first second =>
      moment.rank first.selection.providerRef ≤ moment.rank second.selection.providerRef

def validatePlacement (config : EnvConfig) (casinoGroupId : String) (selectionIds : List String)
    (stakeRaw : String) : Betting ValidatedBetQuote := do
  let stake ← Program.done (checkRequest config selectionIds stakeRaw)
  let rows ← Program.call (readSelections casinoGroupId selectionIds)
  Program.done (validateRows config selectionIds stake rows)

section Quote

def legData (leg : ValidatedLeg) (legOrder : ℕ) : Except Failure BetLeg :=
  legSnapshotCreateData leg.snapshot {
    selectionId := leg.selectionId
    marketId := leg.marketId
    eventId := leg.eventId
    selectionName := leg.selectionName
    priceAtPlacement := leg.price
    legOrder
    outcome := .pending
    marketType := none
    marketLine := none
    homeTeamName := none
    awayTeamName := none
    eventProviderRef := none
    sportKey := none
    sportName := none
    leagueKey := none
    leagueName := none }

theorem legData_placed {quoted : ValidatedLeg} {legOrder : ℕ} {leg : BetLeg}
    (built : legData quoted legOrder = .ok leg) :
    leg.legOrder = legOrder ∧ leg.priceAtPlacement = quoted.price := by
  unfold legData legSnapshotCreateData at built
  obtain ⟨line, _, built⟩ := Except.bind_eq_ok.mp built
  obtain rfl := Except.pure_eq_ok.mp built
  exact ⟨rfl, rfl⟩

/-- The row of a quoted bet; a number that its column cannot hold is a database error. -/
def betData (user : UserContext) (idempotencyKey : String) (quote : ValidatedBetQuote) :
    Except Failure BetData := do
  let stake ← toColumn quote.stake
  let combinedOdds ← toColumn quote.combinedOdds
  let potentialPayout ← toColumn quote.potentialPayout
  let legs ← quote.legs.zipIdx.mapM fun (leg, index) => legData leg index
  return {
    casinoGroupId := user.casinoGroupId
    userId := user.userId
    username := user.username
    idempotencyKey
    stake
    currency := user.currency
    combinedOdds
    potentialPayout
    legs }

theorem betData_ok {user : UserContext} {idempotencyKey : String} {quote : ValidatedBetQuote}
    {data : BetData} (built : betData user idempotencyKey quote = .ok data) :
    toColumn quote.stake = .ok data.stake ∧
      toColumn quote.potentialPayout = .ok data.potentialPayout ∧
      quote.legs.zipIdx.mapM (fun (leg, index) => legData leg index) = .ok data.legs ∧
      data.casinoGroupId = user.casinoGroupId := by
  unfold betData at built
  obtain ⟨stake, staked, built⟩ := Except.bind_eq_ok.mp built
  obtain ⟨_, _, built⟩ := Except.bind_eq_ok.mp built
  obtain ⟨payout, paid, built⟩ := Except.bind_eq_ok.mp built
  obtain ⟨legs, stored, built⟩ := Except.bind_eq_ok.mp built
  obtain rfl := Except.pure_eq_ok.mp built
  exact ⟨staked, paid, stored, rfl⟩

end Quote

def debitPending : Failure :=
  .serviceUnavailable
    "Bet accepted locally; wallet debit pending — retry with the same Idempotency-Key"

def attemptWalletDebit (betId : String) : Betting Bet :=
  Program.handle (WalletOutboxService.processDebitForBet betId) fun failure =>
    match failure with
    | .notFound message => throw (.notFound message)
    | _ => throw debitPending

def retryPendingBet (betId : String) : Betting Bet := attemptWalletDebit betId

/-- The wallet must hold the stake, in the currency of the player. -/
def checkBalance (user : UserContext) (stake : ℚ) : Betting Unit := do
  let (balance, currency) ← getBalance user.username user.casinoGroupId
  if currency ≠ user.currency then throw (.badRequest "Currency mismatch with wallet")
  else do
    let affordable ← Program.done (stakeLessOrEqualBalance stake balance)
    if affordable then return () else throw (.badRequest "Insufficient balance")

def placeNewBet (config : EnvConfig) (user : UserContext) (idempotencyKey : String)
    (selectionIds : List String) (stake : String) : Betting Bet := do
  let quote ← validatePlacement config user.casinoGroupId selectionIds stake
  checkBalance user quote.stake
  let number ← Program.call .randomUUID
  let data ← Program.done (betData user idempotencyKey quote)
  let bet ← transact (.createBet data (.uuid number))
  attemptWalletDebit bet.id

def placeBet (config : EnvConfig) (user : UserContext) (idempotencyKey : String)
    (selectionIds : List String) (stake : String) : Betting Bet := do
  let existing ← view fun db =>
    db.ledger.findBetByKey (user.casinoGroupId, user.userId, idempotencyKey)
  match existing with
  | some bet => if bet.status = .pending then retryPendingBet bet.id else return bet
  | none => placeNewBet config user idempotencyKey selectionIds stake

end SportsBetting.BetsService
