import SportsBetting.Auth.Launch
import SportsBetting.Backoffice.Merchants
import SportsBetting.Backoffice.Readiness
import SportsBetting.Backoffice.StaffBets
import SportsBetting.Staff.Auth

/-!
# The requests of the back office

A request brings an access token. The guard checks it and the permission of the route, the
handler finds the tenant that the request is for, and a service does the rest.
-/

namespace SportsBetting

open Async Jwt

open StaffJwtService (VerifiedStaff)

section Services

namespace StaffAdminService

structure CreateOperatorStaffDto where
  email : String
  password : Option String := none

/-- What is generated for a new account. -/
structure NewOperator where
  staffUserId : String
  password : String
  salt : String

structure CreatedOperator where
  id : String
  email : String
  roles : List StaffRole
  active : Bool
  password : String
  passwordAutoGenerated : Bool

/-- An account refers to a stored tenant. -/
def createUser (user : StaffUser) (casinoGroupId : String) (db : Database) :
    Except Failure (StaffUser × Database) :=
  if (db.catalog.casinoGroups.get? casinoGroupId).isNone then .error .database
  else
    match Merchants.insertUser db user with
    | .error _ => .error (.conflict "Email already in use")
    | .ok after => .ok (user, after)

def createdEntry (actor : StaffContext) (casinoGroupId : String) (created : StaffUser) :
    AuditEntry where
  actorType := "staff"
  actorId := actor.staffUserId
  casinoGroupId := casinoGroupId
  action := "staff.operator_created"
  entityType := "StaffUser"
  entityId := created.id
  before := []
  after := [("email", created.email)]
  reason := some "Platform staff provisioned merchant operator account"

variable (runtime : Text.Runtime) (crypto : Crypto)

def operatorUser (casinoGroupId : String) (dto : CreateOperatorStaffDto) (fresh : NewOperator) :
    StaffUser where
  id := fresh.staffUserId
  email := runtime.toLowerCase (Text.trim dto.email)
  passwordHash := crypto.hashPassword fresh.salt
    ((Merchants.trimmed dto.password).getD fresh.password)
  casinoGroupId := some casinoGroupId
  roles := [.operatorAdmin]
  active := true

def createOperatorAdmin (actor : StaffContext) (casinoGroupId : String)
    (dto : CreateOperatorStaffDto) (fresh : NewOperator) : Service CreatedOperator := do
  match StaffAuth.assertPlatformStaff actor with
  | .error failure => throw failure
  | .ok _ => do
      StaffScopeService.assertCasinoGroupAccess actor casinoGroupId
      let group ← read fun db => db.catalog.casinoGroups.get? casinoGroupId
      match group with
      | none => throw (.notFound "Casino group not found")
      | some _ => do
          let created ← transaction
            (createUser (operatorUser runtime crypto casinoGroupId dto fresh) casinoGroupId)
          recordAudit (createdEntry actor casinoGroupId created)
          pure ⟨created.id, created.email, created.roles, created.active,
            (Merchants.trimmed dto.password).getD fresh.password,
            (Merchants.trimmed dto.password).isNone⟩

end StaffAdminService

namespace Portal

variable (runtime : Text.Runtime)

/-- Settle the bets of the tenant on an event that is ready. -/
def runSettlementForEvent (casinoGroupId eventId staffUserId : String) : PortalService (ℕ × ℕ) := do
  let row ← betting (StaffSettlementService.loadUnsettledEventRow casinoGroupId eventId)
  match row with
  | none => throw (.notFound "No open bets found for this event")
  | some row =>
      if !row.readyToSettle then throw (.badRequest "Event is not ready to settle")
      else do
        let (settled, attempted) ← betting
          (SettlementService.settleBetsForEvent runtime eventId casinoGroupId)
        prisma (recordAudit (settlementEntry casinoGroupId eventId staffUserId
          "settlement.event_run" "Staff triggered settlement for event"
          [("settled", toString settled), ("attempted", toString attempted)]))
        pure (settled, attempted)

def applyManualResultByProviderRef (casinoGroupId providerRef : String) (homeScore awayScore : ℤ)
    (staffUserId : String) : PortalService ManualSettlement := do
  let event ← prisma (read fun db => db.catalog.events.get? (Text.trim providerRef))
  match event with
  | none => throw (.notFound ("Event not found for providerRef=" ++ providerRef))
  | some event =>
      Portal.applyManualResultAndSettle runtime casinoGroupId event.providerRef homeScore awayScore
        staffUserId

end Portal

end Services

section Guard

def hasPermission (permissions : List Json) (required : StaffPermission) : Bool :=
  permissions.any fun permission =>
    match permission with
    | .text name => name = required.text
    | _ => false

namespace StaffAuthGuard

variable (jwt : Format) (config : TokenConfig) (runtime : Text.Runtime)

def bearerToken (authorization : Option String) : Option String :=
  Auth.PlayerAuthGuard.bearerToken runtime { authorization }

def session (token : String) (time : Time) : Except Failure VerifiedStaff :=
  match jwt.parse token with
  | none => .error StaffJwtService.invalid
  | some token =>
      StaffJwtService.verifyAccessToken jwt.toScheme config token (Auth.seconds time)

def canActivate (authorization : Option String) (required : Option StaffPermission)
    (time : Time) : Except Failure VerifiedStaff :=
  match bearerToken runtime authorization with
  | none => .error (.unauthorized "Staff authentication required")
  | some token => do
      let staff ← session jwt config token time
      match required with
      | none => return staff
      | some required =>
          if hasPermission staff.permissions required then return staff
          else throw (.forbidden ("Missing permission: " ++ required.text))

end StaffAuthGuard

/-- Platform super-user only. -/
def assertSuperAdmin (staff : StaffContext) : Except Failure Unit := do
  StaffAuth.assertPlatformStaff staff
  if !hasStaffRole staff.roles .superAdmin then
    throw (.forbidden "Requires SUPER_ADMIN role")

/-- The group of a token, which is a text or null. -/
def groupOf : Json → Option String
  | .text casinoGroupId => some casinoGroupId
  | _ => none

def STAFF_ROLES : List StaffRole :=
  [.superAdmin, .platformAdmin, .operatorAdmin, .trader, .riskManager, .customerSupport,
    .settlement, .finance, .compliance]

def roleOf : Json → Option StaffRole
  | .text name => STAFF_ROLES.find? fun role => role.text = name
  | _ => none

/-- What the services read of a verified token. -/
def StaffJwtService.VerifiedStaff.context (staff : VerifiedStaff) : StaffContext where
  staffUserId := staff.staffUserId
  casinoGroupId := groupOf staff.casinoGroupId
  roles := staff.roles.filterMap roleOf

end Guard

namespace Portal

open Trading StaffScopeService

/-- The mutations, with what their requests say in the path and the body. -/
inductive Route
  | updateLeagues (leagues : List Product.LeagueOfferingDto)
  | patchTenant (dto : CasinoGroups.PatchTenantDto)
  | patchLimits (dto : PatchRiskLimitsDto)
  | suspendEvent (eventId reason : String)
  | suspendMarket (marketId reason : String)
  | resumeMarket (marketId : String)
  | voidBet (betId reason : String)
  | retryWalletTransmission
  | runEventSettlement (eventId : String)
  | applyProviderResult (providerRef : String) (homeScore awayScore : ℤ)
  | applyEventResult (eventId : String) (homeScore awayScore : ℤ)
  | createMerchant (dto : Merchants.CreateMerchantDto) (generated : Merchants.Generated)
  | setTenantAccess (staffUserId : String) (casinoGroupIds : List String)
  | createOperator (casinoGroupId : String) (dto : StaffAdminService.CreateOperatorStaffDto)
      (fresh : StaffAdminService.NewOperator)
  | updateOperator (staffUserId casinoGroupId : String) (dto : StaffAuth.UpdateOperatorStaffDto)
      (salt : String)

def Route.permission : Route → StaffPermission
  | .updateLeagues _ => .productLeaguesUpdate
  | .patchTenant _ => .tenantUpdate
  | .patchLimits _ => .tradingLimitsUpdate
  | .suspendEvent .. | .suspendMarket .. | .resumeMarket _ => .tradingSuspend
  | .voidBet .. => .betsVoid
  | .retryWalletTransmission | .runEventSettlement _ | .applyProviderResult ..
  | .applyEventResult .. => .settlementRun
  | .createMerchant .. => .tenantCreate
  | .setTenantAccess .. => .staffTenantAccessUpdate
  | .createOperator .. | .updateOperator .. => .staffOperatorUpdate

section Handlers

/-- The part of the environment that the handlers read. -/
structure Environment where
  jwt : Format
  tokens : TokenConfig
  runtime : Text.Runtime
  crypto : Crypto
  ODDS_API_SPORT_KEYS : List String

def checked {α : Type} (result : Except Failure α) : PortalService α := .done result

variable (env : Environment) (staff : StaffContext)

/-- A call of the staff machine on the portal's database. No service that the portal runs this
way asks for the time. -/
def staffQuery {Reply : Type} :
    Joint StaffAuth.StaffCall (Query Database Failure) Reply → Query Database Failure Reply
  | .own call => fun db =>
      let answer := call.run ⟨db, 0, [], []⟩
      (answer.1, answer.2.db)
  | .other query => query

def staffed {α : Type} (service : StaffAuth.StaffService α) : PortalService α :=
  service.mapCalls fun request => .database (staffQuery request)

/-- A service for the tenant that the request is for. -/
def forTenant (requested : Option String) (service : String → PortalService Unit) :
    PortalService Unit := do
  let groupId ← prisma (resolveCasinoGroupId staff requested)
  service groupId

def mutation (change : Mutation) : PortalService Unit :=
  change.program env.ODDS_API_SPORT_KEYS env.runtime

def Route.handler (requested : Option String) : Route → PortalService Unit
  | .updateLeagues leagues => forTenant staff requested fun groupId =>
      mutation env (.updateLeagues groupId leagues staff)
  | .patchTenant dto => forTenant staff requested fun groupId =>
      mutation env (.patchTenant groupId dto staff.staffUserId)
  | .patchLimits dto => forTenant staff requested fun groupId =>
      mutation env (.patchLimits groupId dto staff.staffUserId)
  | .suspendEvent eventId reason => forTenant staff requested fun groupId =>
      mutation env (.suspendEvent groupId eventId reason staff.staffUserId)
  | .suspendMarket marketId reason => forTenant staff requested fun groupId =>
      mutation env (.suspendMarket groupId marketId reason staff.staffUserId)
  | .resumeMarket marketId => forTenant staff requested fun groupId =>
      mutation env (.resumeMarket groupId marketId staff.staffUserId)
  | .voidBet betId reason => forTenant staff requested fun groupId =>
      mutation env (.voidBet groupId betId reason staff.staffUserId)
  | .retryWalletTransmission => forTenant staff requested fun groupId =>
      (betting (StaffSettlementService.retryWalletSettlementTransmission groupId
        staff.staffUserId)).void
  | .runEventSettlement eventId => do
      checked (StaffAuth.assertPlatformStaff staff)
      forTenant staff requested fun groupId =>
        (runSettlementForEvent env.runtime groupId eventId staff.staffUserId).void
  | .applyProviderResult providerRef homeScore awayScore => do
      checked (StaffAuth.assertPlatformStaff staff)
      forTenant staff requested fun groupId =>
        (applyManualResultByProviderRef env.runtime groupId providerRef homeScore awayScore
          staff.staffUserId).void
  | .applyEventResult eventId homeScore awayScore => do
      checked (StaffAuth.assertPlatformStaff staff)
      forTenant staff requested fun groupId =>
        mutation env (.applyManualResultAndSettle groupId eventId homeScore awayScore
          staff.staffUserId)
  | .createMerchant dto generated => do
      checked (StaffAuth.assertPlatformStaff staff)
      (prisma (Merchants.createMerchant env.runtime env.crypto dto staff generated)).void
  | .setTenantAccess staffUserId casinoGroupIds => do
      checked (assertSuperAdmin staff)
      mutation env (.setPlatformAdminTenantAccess staffUserId casinoGroupIds staff.staffUserId)
  | .createOperator casinoGroupId dto fresh =>
      (prisma (StaffAdminService.createOperatorAdmin env.runtime env.crypto staff casinoGroupId dto
        fresh)).void
  | .updateOperator staffUserId casinoGroupId dto salt =>
      (staffed (StaffAuth.updateOperatorAdmin env.runtime env.crypto staff staffUserId casinoGroupId
        dto salt)).void

structure Request where
  authorization : Option String
  /-- When the guard checks the token. -/
  time : Time
  casinoGroupId : Option String
  route : Route

/-- The member of staff that makes the request, if it gets past the guard. -/
def Request.actor (request : Request) : Except Failure StaffContext :=
  (StaffAuthGuard.canActivate env.jwt env.tokens env.runtime request.authorization
    (some request.route.permission) request.time).map VerifiedStaff.context

def Request.program (request : Request) : PortalService Unit :=
  match request.actor env with
  | .error failure => throw failure
  | .ok staff => request.route.handler env staff request.casinoGroupId

end Handlers

end Portal

end SportsBetting
