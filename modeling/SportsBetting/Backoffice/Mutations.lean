import SportsBetting.Backoffice.Product
import SportsBetting.Backoffice.Trading
import SportsBetting.Bets.Actors
import SportsBetting.CasinoGroups.Service

/-!
# The mutations of the back office

Some of them work on rows that only staff writes: risk limits and the grants of platform
admins. The portal runs them all, on the database, the tenant cache and the wallet.
-/

namespace SportsBetting

open Async Numeral

namespace Trading

/-- Rows are only created by upserts on their unique key, which no update changes. -/
structure RiskLimit where
  id : String
  casinoGroupId : String
  scope : String
  scopeRef : String
  minStake : Option (Numeric 12 2)
  maxStake : Option (Numeric 12 2)
  maxPayout : Option (Numeric 14 2)
  deriving DecidableEq

def RiskLimit.key (limit : RiskLimit) : String × String × String :=
  (limit.casinoGroupId, limit.scope, limit.scopeRef)

abbrev RiskLimits := Table RiskLimit RiskLimit.key

/-- The key of the limits that hold for all bets of a tenant. -/
def globalKey (casinoGroupId : String) : String × String × String := (casinoGroupId, "GLOBAL", "")

/-- A field that is left out stays as it is; null removes the limit. -/
structure PatchRiskLimitsDto where
  minStake : Option (Option String) := none
  maxStake : Option (Option String) := none
  maxPayout : Option (Option String) := none

/-- The fields of the request as numbers. -/
structure LimitPatch where
  minStake : Option (Option ℚ)
  maxStake : Option (Option ℚ)
  maxPayout : Option (Option ℚ)
  deriving DecidableEq

def limitAmount : Option (Option String) → Except Failure (Option (Option ℚ))
  | none => .ok none
  | some field =>
      match nonEmpty field with
      | none => .ok (some none)
      | some text => (newDecimal text).map fun number => some (some number)

def PatchRiskLimitsDto.parse (dto : PatchRiskLimitsDto) : Except Failure LimitPatch := do
  let minStake ← limitAmount dto.minStake
  let maxStake ← limitAmount dto.maxStake
  let maxPayout ← limitAmount dto.maxPayout
  return ⟨minStake, maxStake, maxPayout⟩

/-- The column after the patch. -/
def patchColumn {precision scale : ℕ} (patch : Option (Option ℚ))
    (stored : Option (Numeric precision scale)) :
    Except Failure (Option (Numeric precision scale)) :=
  match patch with
  | none => .ok stored
  | some none => .ok none
  | some (some number) => (toColumn number).map some

def LimitPatch.apply (patch : LimitPatch) (limit : RiskLimit) : Except Failure RiskLimit := do
  let minStake ← patchColumn patch.minStake limit.minStake
  let maxStake ← patchColumn patch.maxStake limit.maxStake
  let maxPayout ← patchColumn patch.maxPayout limit.maxPayout
  return { limit with minStake, maxStake, maxPayout }

/-- The row that is there, or else an empty one, which needs its tenant. -/
def globalLimit (casinoGroupId freshId : String) (db : Database) (limits : RiskLimits) :
    Except Failure RiskLimit :=
  match limits.get? (globalKey casinoGroupId) with
  | some limit => .ok limit
  | none =>
      if (db.catalog.casinoGroups.get? casinoGroupId).isNone then .error .database
      else .ok ⟨freshId, casinoGroupId, "GLOBAL", "", none, none, none⟩

def upsertLimit (casinoGroupId : String) (patch : LimitPatch) (freshId : String) (db : Database)
    (limits : RiskLimits) : Except Failure (RiskLimit × RiskLimits) := do
  let limit ← globalLimit casinoGroupId freshId db limits
  let patched ← patch.apply limit
  return (patched, limits.put patched)

def amountText {precision scale : ℕ} (amount : Option (Numeric precision scale)) : String :=
  (amount.map Numeric.text).getD "null"

def RiskLimit.columns (limit : Option RiskLimit) : List (String × String) :=
  [("minStake", amountText (limit.bind RiskLimit.minStake)),
    ("maxStake", amountText (limit.bind RiskLimit.maxStake)),
    ("maxPayout", amountText (limit.bind RiskLimit.maxPayout))]

def limitsEntry (casinoGroupId staffUserId : String) (before : Option RiskLimit)
    (limit : RiskLimit) : AuditEntry where
  actorType := "staff"
  actorId := staffUserId
  casinoGroupId := some casinoGroupId
  action := "trading.limits_updated"
  entityType := "RiskLimit"
  entityId := limit.id
  before := ("casinoGroupId", casinoGroupId) :: ("scope", "GLOBAL") :: RiskLimit.columns before
  after := RiskLimit.columns (some limit)
  reason := none

end Trading

namespace StaffAdminService

open StaffScopeService

structure PlatformAdmin where
  id : String
  email : String
  casinoGroups : List TenantListItem

def grantedIds (staffUserId : String) (db : Database) : List String :=
  (db.staff.access.rows.filter fun row => row.staffUserId = staffUserId).map
    StaffCasinoGroupAccess.casinoGroupId

def createGrants (staffUserId : String) (casinoGroupIds : List String)
    (access : Table StaffCasinoGroupAccess StaffCasinoGroupAccess.key) :
    Except Failure (Table StaffCasinoGroupAccess StaffCasinoGroupAccess.key) :=
  casinoGroupIds.foldlM (fun access casinoGroupId =>
    match access.insert? ⟨staffUserId, casinoGroupId⟩ with
    | none => .error .uniqueViolation
    | some access => .ok access) access

/-- All grants of the member are deleted, and the new ones created. -/
def replaceGrants (staffUserId : String) (casinoGroupIds : List String) (db : Database) :
    Except Failure (Unit × Database) := do
  let cleared := db.staff.access.deleteWhere fun row => row.staffUserId = staffUserId
  let access ← createGrants staffUserId casinoGroupIds cleared
  if casinoGroupIds ≠ [] ∧ ((db.staff.users.get? staffUserId).isNone ∨
      casinoGroupIds.any fun id => (db.catalog.casinoGroups.get? id).isNone) then .error .database
  else return ((), { db with staff := { db.staff with access } })

def accessEntry (staffUserId email : String) (before after : List String)
    (actorStaffUserId : String) : AuditEntry where
  actorType := "staff"
  actorId := actorStaffUserId
  casinoGroupId := none
  action := "staff.tenant_access.updated"
  entityType := "StaffUser"
  entityId := staffUserId
  before := [("casinoGroupIds", ",".intercalate before)]
  after := [("casinoGroupIds", ",".intercalate after)]
  reason := some ("Platform admin tenant access for " ++ email)

def platformAdmin (staffUserId : String) (db : Database) : Option PlatformAdmin :=
  (db.staff.users.get? staffUserId).map fun user =>
    ⟨user.id, user.email, (grantedGroups staffUserId db).map tenantListItem⟩

def setPlatformAdminTenantAccess (staffUserId : String) (casinoGroupIds : List String)
    (actorStaffUserId : String) : Service PlatformAdmin := do
  let user ← read fun db =>
    (db.staff.users.get? staffUserId).map fun user => (user, grantedIds staffUserId db)
  match user with
  | none => throw (.notFound "Staff user not found")
  | some (user, before) =>
      if (nonEmpty user.casinoGroupId).isSome then
        throw (.badRequest
          "Tenant access grants apply only to platform-scoped PLATFORM_ADMIN users")
      else if !hasStaffRole user.roles .platformAdmin then
        throw (.badRequest "Staff user must have PLATFORM_ADMIN role")
      else do
        let groups ← read fun db =>
          (db.catalog.casinoGroups.rows.filter fun group => group.id ∈ casinoGroupIds).map
            CasinoGroup.id
        if groups.length ≠ casinoGroupIds.length then
          throw (.notFound "One or more casino groups not found")
        else do
          transaction (replaceGrants staffUserId casinoGroupIds)
          recordAudit (accessEntry staffUserId user.email before casinoGroupIds
            actorStaffUserId)
          let updated ← read (platformAdmin staffUserId)
          match updated with
          | none => throw .database
          | some updated => pure updated

end StaffAdminService

namespace Portal

open CasinoGroups Trading

structure State where
  world : World
  cache : Cache
  limits : RiskLimits

/-- A query on the risk limits sees the database and is given a fresh id. -/
inductive Call : Type → Type 1
  | database {Reply : Type} (query : Query Database Failure Reply) : Call Reply
  | betting {Reply : Type} (call : BettingCall Reply) : Call Reply
  | cache {Reply : Type} (call : CacheCall Reply) : Call Reply
  | limits {Reply : Type} (query : String → Database → Query RiskLimits Failure Reply) : Call Reply

def State.perform {Reply : Type} (choice : Choice) (request : Call Reply) (portal : State) :
    Except Failure Reply × State :=
  match request with
  | .database query =>
      let answer := databaseMachine.perform choice.fault query portal.world.db
      (answer.1, { portal with world.db := answer.2 })
  | .betting call =>
      let answer := portal.world.answer choice call
      (answer.1, { portal with world := answer.2 })
  | .cache call =>
      let answer := cacheMachine.perform choice.fault (.own call)
        ⟨portal.world.db, portal.cache, portal.world.clock, []⟩
      (answer.1, { portal with cache := answer.2.cache })
  | .limits query =>
      let answer := (Query.machine RiskLimits Failure.database).perform choice.fault
        (query choice.freshId portal.world.db) portal.limits
      (answer.1, { portal with limits := answer.2 })

/-- Events are the passing of milliseconds. -/
@[reducible] def machine : Machine Call Failure where
  State := State
  Choice := Choice
  Event := ℕ
  perform choice request portal := portal.perform choice request
  occur passed portal := { portal with world := portal.world.happen (.clock passed) }

abbrev PortalService := Program Call Failure

def prisma {α : Type} (service : Service α) : PortalService α := service.mapCalls .database

def betting {α : Type} (service : Betting α) : PortalService α := service.mapCalls .betting

def Call.ofCache {Reply : Type} : Joint CacheCall (Query Database Failure) Reply → Call Reply
  | .own call => .cache call
  | .other query => .database query

def caching {α : Type} (service : CacheService α) : PortalService α :=
  service.mapCalls Call.ofCache

def patchLimits (casinoGroupId : String) (dto : PatchRiskLimitsDto) (staffUserId : String) :
    PortalService RiskLimit := do
  let before ← Program.call (.limits fun _ _ =>
    Query.read fun limits : RiskLimits => limits.get? (globalKey casinoGroupId))
  match dto.parse with
  | .error failure => throw failure
  | .ok patch => do
      let limit ← Program.call (.limits fun freshId db =>
        Query.transaction (upsertLimit casinoGroupId patch freshId db))
      prisma (recordAudit (limitsEntry casinoGroupId staffUserId before limit))
      pure limit

section ManualResult

def openBetCount (casinoGroupId eventId : String) (db : Database) : ℕ :=
  (db.ledger.bets.rows.filter fun bet => bet.casinoGroupId = casinoGroupId &&
    bet.status = .accepted && bet.legs.any fun leg => leg.eventId = eventId).length

def settlementEntry (casinoGroupId eventId staffUserId action reason : String)
    (after : List (String × String)) : AuditEntry where
  actorType := "staff"
  actorId := staffUserId
  casinoGroupId := some casinoGroupId
  action := action
  entityType := "Event"
  entityId := eventId
  before := []
  after := after
  reason := some reason

structure ManualSettlement where
  eventId : String
  homeScore : ℤ
  awayScore : ℤ
  settled : ℕ
  attempted : ℕ
  remainingOpenBets : ℕ

def applyManualResultAndSettle (runtime : Text.Runtime) (casinoGroupId eventId : String)
    (homeScore awayScore : ℤ) (staffUserId : String) : PortalService ManualSettlement := do
  let openBets ← prisma (read (openBetCount casinoGroupId eventId))
  if openBets = 0 then throw (.notFound "No open bets found for this event")
  else do
    let event ← prisma (read fun db => db.catalog.events.get? eventId)
    match event with
    | none => throw (.notFound "Event not found")
    | some event => do
        let updatedEventId ← prisma
          (Ingestion.finalizeEventResult event.providerRef homeScore awayScore)
        match updatedEventId with
        | none => throw (.notFound "Event not found")
        | some _ => do
            prisma (recordAudit (settlementEntry casinoGroupId eventId staffUserId
              "settlement.manual_result" "Staff entered final score for settlement"
              [("homeScore", toString homeScore), ("awayScore", toString awayScore),
                ("providerRef", event.providerRef)]))
            let (settled, attempted) ← betting
              (SettlementService.settleBetsForEvent runtime eventId casinoGroupId)
            prisma (recordAudit (settlementEntry casinoGroupId eventId staffUserId
              "settlement.event_run" "Settlement run after manual result"
              [("settled", toString settled), ("attempted", toString attempted)]))
            pure ⟨eventId, homeScore, awayScore, settled, attempted, attempted - settled⟩

end ManualResult

inductive Mutation
  | updateLeagues (casinoGroupId : String) (leagues : List Product.LeagueOfferingDto)
      (staff : StaffContext)
  | patchTenant (casinoGroupId : String) (dto : PatchTenantDto) (staffUserId : String)
  | patchLimits (casinoGroupId : String) (dto : PatchRiskLimitsDto) (staffUserId : String)
  | suspendEvent (casinoGroupId eventId reason staffUserId : String)
  | suspendMarket (casinoGroupId marketId reason staffUserId : String)
  | resumeMarket (casinoGroupId marketId staffUserId : String)
  | voidBet (casinoGroupId betId reason staffUserId : String)
  | applyManualResultAndSettle (casinoGroupId eventId : String) (homeScore awayScore : ℤ)
      (staffUserId : String)
  | setPlatformAdminTenantAccess (staffUserId : String) (casinoGroupIds : List String)
      (actorStaffUserId : String)

def Mutation.program (configured : List String) (runtime : Text.Runtime) :
    Mutation → PortalService Unit
  | .updateLeagues casinoGroupId leagues staff =>
      (prisma (Product.updateLeagues configured casinoGroupId leagues staff)).void
  | .patchTenant casinoGroupId dto staffUserId =>
      (caching (CasinoGroups.patchTenant casinoGroupId dto staffUserId)).void
  | .patchLimits casinoGroupId dto staffUserId =>
      (Portal.patchLimits casinoGroupId dto staffUserId).void
  | .suspendEvent casinoGroupId eventId reason staffUserId =>
      prisma (Trading.suspendEvent casinoGroupId eventId reason staffUserId)
  | .suspendMarket casinoGroupId marketId reason staffUserId =>
      prisma (Trading.suspendMarket casinoGroupId marketId reason staffUserId)
  | .resumeMarket casinoGroupId marketId staffUserId =>
      prisma (Trading.resumeMarket casinoGroupId marketId staffUserId)
  | .voidBet casinoGroupId betId reason staffUserId =>
      (betting (StaffBetsService.voidBet casinoGroupId betId reason staffUserId)).void
  | .applyManualResultAndSettle casinoGroupId eventId homeScore awayScore staffUserId =>
      (Portal.applyManualResultAndSettle runtime casinoGroupId eventId homeScore awayScore
        staffUserId).void
  | .setPlatformAdminTenantAccess staffUserId casinoGroupIds actorStaffUserId =>
      (prisma (StaffAdminService.setPlatformAdminTenantAccess staffUserId casinoGroupIds
        actorStaffUserId)).void

/-- One mutation, run alone. -/
def start (configured : List String) (runtime : Text.Runtime) (mutation : Mutation)
    (portal : State) : Config machine :=
  ⟨portal, [mutation.program configured runtime]⟩

end Portal

end SportsBetting
