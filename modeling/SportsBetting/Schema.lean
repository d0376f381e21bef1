import SportsBetting.Data.Table
import SportsBetting.Numeral.Column

/-!
# Database schema

Catalog rows are only ever created by an upsert on a unique natural key that no
update changes, so that key stands for the generated id: sport, league and team
keys, and the provider references of fixtures, events, markets and selections.
-/

namespace SportsBetting

open Numeral

inductive WalletErrorCode | insufficientFunds | unavailable | duplicate
  deriving DecidableEq, Repr

/-- What a call can be answered with instead of a reply. -/
inductive Failure
  | walletReserve (message : String) (code : WalletErrorCode)
  | notFound (message : String)
  | badRequest (message : String)
  | unauthorized (message : String)
  | forbidden (message : String)
  | conflict (message : String)
  | serviceUnavailable (message : String)
  | uniqueViolation
  | database
  | error (message : String)
  deriving DecidableEq, Repr

section Enumerations

inductive FixtureStatus | scheduled | live | ended | postponed | cancelled
  deriving DecidableEq, Repr

inductive EventStatus | scheduled | live | suspended | ended | cancelled
  deriving DecidableEq, Repr

inductive MarketType | matchResult | handicap | total | doubleChance | bothTeamsScore
  deriving DecidableEq, Repr

inductive MarketStatus | open | suspended | settled | void
  deriving DecidableEq, Repr

inductive SelectionStatus | open | suspended | settled | void
  deriving DecidableEq, Repr

inductive BetStatus | pending | accepted | rejected | won | lost | void
  deriving DecidableEq, Repr

inductive BetLegOutcome | pending | won | lost | void
  deriving DecidableEq, Repr

inductive WalletOutboxStatus | pending | completed | failed
  deriving DecidableEq, Repr

/-- Bet placement debit, auto settlement, and staff manual void refund. -/
inductive OutboxType | walletReserve | walletSettle | walletStaffVoid
  deriving DecidableEq, Repr

end Enumerations

section CatalogRows

/-- Milliseconds since the epoch. -/
abbrev Time := ℤ

structure Sport where
  key : String
  name : String
  slug : String
  active : Bool
  deriving DecidableEq

structure League where
  key : String
  sport : String
  name : String
  region : Option String
  active : Bool
  deriving DecidableEq

structure Team where
  key : String
  sport : String
  name : String
  shortName : Option String
  deriving DecidableEq

structure Fixture where
  providerRef : String
  league : String
  homeTeam : String
  awayTeam : String
  startsAt : Time
  status : FixtureStatus
  deriving DecidableEq

structure Event where
  providerRef : String
  fixture : String
  status : EventStatus
  homeScore : Option ℤ
  awayScore : Option ℤ
  period : Option String
  clock : Option String
  deriving DecidableEq

structure Market where
  providerRef : String
  event : String
  type : MarketType
  status : MarketStatus
  line : Option (Numeric 6 2)
  deriving DecidableEq

structure Selection where
  providerRef : String
  market : String
  name : String
  status : SelectionStatus
  price : Numeric 10 3
  deriving DecidableEq

structure OddsSnapshot where
  selection : String
  price : Numeric 10 3
  deriving DecidableEq

structure CasinoGroup where
  id : String
  slug : String
  active : Bool
  defaultCurrency : String
  merchantId : Option String
  sportsSecret : Option String
  walletApiUrl : Option String
  name : String
  timezone : String
  deriving DecidableEq

structure CasinoGroupLeague where
  casinoGroupId : String
  league : String
  enabled : Bool
  /-- Set when platform staff disable the league. -/
  platformLocked : Bool
  deriving DecidableEq

def CasinoGroupLeague.key (row : CasinoGroupLeague) : String × String :=
  (row.casinoGroupId, row.league)

end CatalogRows

structure Catalog where
  sports : Table Sport Sport.key
  leagues : Table League League.key
  teams : Table Team Team.key
  fixtures : Table Fixture Fixture.providerRef
  events : Table Event Event.providerRef
  markets : Table Market Market.providerRef
  selections : Table Selection Selection.providerRef
  oddsSnapshots : List OddsSnapshot
  casinoGroups : Table CasinoGroup CasinoGroup.id
  casinoGroupLeagues : Table CasinoGroupLeague CasinoGroupLeague.key
  deriving DecidableEq

section LedgerRows

/-- The outcomes a settled bet or leg can have. -/
inductive WalletSettlementOutcome | won | lost | void
  deriving DecidableEq, Repr

/-- A transaction code by its origin: a fresh UUID, or a digest of what is
settled. Digests of different origins are taken to differ. -/
inductive TransactionCode
  | empty
  | uuid (number : ℕ)
  | settlement (bet : String) (outcome : WalletSettlementOutcome)
  | staffVoid (bet : String)
  deriving DecidableEq

structure WalletTransactionRequest where
  userCode : String
  casinoGroupId : String
  roundId : String
  transactionCode : TransactionCode
  /-- The event whose digest is the numeric `historyId`. -/
  historyId : String
  gameCode : String
  gameType : ℕ
  isFinished : Bool
  isCanceled : Bool
  amount : String
  detail : String
  createdAt : Time
  deriving DecidableEq

structure BetLeg where
  selectionId : String
  marketId : String
  eventId : String
  selectionName : String
  priceAtPlacement : Numeric 10 3
  legOrder : ℕ
  outcome : BetLegOutcome
  marketType : Option MarketType
  marketLine : Option (Numeric 6 2)
  homeTeamName : Option String
  awayTeamName : Option String
  eventProviderRef : Option String
  sportKey : Option String
  sportName : Option String
  leagueKey : Option String
  leagueName : Option String
  deriving DecidableEq

/-- What the wallet reported as the transaction id: its message, or else our own code. -/
inductive Reservation | message (text : String) | code (code : TransactionCode)
  deriving DecidableEq

structure Bet where
  id : String
  casinoGroupId : String
  userId : String
  username : String
  idempotencyKey : String
  stake : Numeric 12 2
  currency : String
  status : BetStatus
  combinedOdds : Numeric 12 3
  potentialPayout : Numeric 14 2
  walletReservationId : Option Reservation
  rejectionReason : Option String
  payoutAmount : Option (Numeric 14 2)
  settledAt : Option Time
  settlementNote : Option String
  createdAt : Time
  legs : List BetLeg
  deriving DecidableEq

/-- The unique `(casinoGroupId, userId, idempotencyKey)`. -/
def Bet.placement (bet : Bet) : String × String × String :=
  (bet.casinoGroupId, bet.userId, bet.idempotencyKey)

structure WalletOutbox where
  betId : String
  casinoGroupId : String
  type : OutboxType
  transactionCode : TransactionCode
  batchId : Option ℕ
  /-- The stored request; debits store `{}` and are rebuilt from the bet. -/
  payload : Option WalletTransactionRequest
  status : WalletOutboxStatus
  attempts : ℕ
  lastError : Option String
  nextRetryAt : Option Time
  createdAt : Time
  deriving DecidableEq

/-- The unique `(betId, type)`. -/
def WalletOutbox.key (row : WalletOutbox) : String × OutboxType := (row.betId, row.type)

instance : LawfulBEq (String × OutboxType) := inferInstance

end LedgerRows

section StaffRows

inductive StaffRole
  | superAdmin | platformAdmin | operatorAdmin | trader | riskManager | customerSupport
  | settlement | finance | compliance
  deriving DecidableEq, Repr

structure StaffUser where
  id : String
  email : String
  passwordHash : String
  /-- None for a platform operator. -/
  casinoGroupId : Option String
  roles : List StaffRole
  active : Bool
  deriving DecidableEq

structure StaffSession where
  id : ℕ
  staffUserId : String
  refreshTokenHash : String
  expiresAt : Time
  revokedAt : Option Time
  deriving DecidableEq

/-- Sessions are numbered in the order of their creation, and no number is used again. -/
structure StaffSessions where
  table : Table StaffSession StaffSession.refreshTokenHash
  next : ℕ
  numbered : ∀ session ∈ table, session.id < next
  deriving DecidableEq

def StaffSessions.empty : StaffSessions := ⟨.empty, 0, fun _ never => nomatch never⟩

/-- Which casino groups a platform admin may access. -/
structure StaffCasinoGroupAccess where
  staffUserId : String
  casinoGroupId : String
  deriving DecidableEq

def StaffCasinoGroupAccess.key (row : StaffCasinoGroupAccess) : String × String :=
  (row.staffUserId, row.casinoGroupId)

structure StaffTables where
  users : Table StaffUser StaffUser.id
  sessions : StaffSessions
  access : Table StaffCasinoGroupAccess StaffCasinoGroupAccess.key
  deriving DecidableEq

def StaffTables.empty : StaffTables := ⟨.empty, .empty, .empty⟩

end StaffRows

end SportsBetting
