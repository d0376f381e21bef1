import SportsBetting.Backoffice.Product
import SportsBetting.Shared.Crypto

/-!
# Onboarding a merchant

A new tenant gets a row for every league that is in the catalog, an operator
account, and a grant for the platform admin who created it.
-/

namespace SportsBetting.Merchants

open Async Text

structure CreateMerchantDto where
  slug : String
  name : String
  merchantId : Option String := none
  defaultCurrency : Option String := none
  sportsSecret : Option String := none
  enabledLeagueKeys : Option (List String) := none
  operatorEmail : Option String := none
  operatorPassword : Option String := none
  walletApiUrl : Option String := none

/-- What is generated for a new merchant. -/
structure Generated where
  casinoGroupId : String
  staffUserId : String
  sportsSecret : String
  password : String
  vector : String
  salt : String

section Names

variable (runtime : Runtime)

/-- Default launch-JWT merchant id when the operator does not supply one. -/
def defaultMerchantIdFromSlug (slug : String) : String :=
  let normalized := runtime.toLowerCase (trim slug)
  if normalized ≠ "" then normalized ++ "-merchant" else ""

/-- Default back-office login email for a new merchant tenant. -/
def defaultOperatorEmail (slug : String) : String :=
  "admin@" ++ runtime.toLowerCase (trim slug) ++ ".merchant.local"

def normalizeWalletApiUrl (url : String) : String :=
  String.ofList ((trim url).toList.reverse.dropWhile (· = '/')).reverse

/-- The text without the white space around it, unless nothing is left. -/
def trimmed (text : Option String) : Option String := nonEmpty (text.map trim)

def merchantIdOf (dto : CreateMerchantDto) : String :=
  (trimmed dto.merchantId).getD (defaultMerchantIdFromSlug runtime dto.slug)

def operatorEmailOf (dto : CreateMerchantDto) : String :=
  runtime.toLowerCase ((trimmed dto.operatorEmail).getD (defaultOperatorEmail runtime dto.slug))

def offeredKeysOf (dto : CreateMerchantDto) : List String :=
  match dto.enabledLeagueKeys with
  | some (key :: keys) => key :: keys
  | _ => [Ingestion.NBA_LEAGUE_KEY]

end Names

section Queries

/-- Slugs, and merchant ids where there is one, are unique. -/
def insertGroup (db : Database) (group : CasinoGroup) : Except Failure Database :=
  let taken := db.catalog.casinoGroups.rows.any fun other =>
    other.slug = group.slug || (group.merchantId.isSome && other.merchantId = group.merchantId)
  match if taken then none else db.catalog.casinoGroups.insert? group with
  | none => .error (.conflict "Slug or merchantId already exists")
  | some casinoGroups => .ok { db with catalog.casinoGroups := casinoGroups }

/-- A row for every league. -/
def enableLeagues (casinoGroupId : String) (offeredKeys : List String) :
    List String → Database → Database
  | [], db => db
  | league :: leagues, db =>
      enableLeagues casinoGroupId offeredKeys leagues
        (Ingestion.upsertGroupLeague db casinoGroupId league
          (Ingestion.isLeagueOffered league offeredKeys))

/-- A grant, if there is to be one, refers to a stored member. -/
def grantAccess (grantTo : Option String) (casinoGroupId : String) (db : Database) :
    Except Failure Database :=
  match grantTo with
  | none => .ok db
  | some staffUserId =>
      if (db.staff.users.get? staffUserId).isNone then .error .database
      else .ok { db with staff.access := db.staff.access.put ⟨staffUserId, casinoGroupId⟩ }

/-- Emails are unique. -/
def insertUser (db : Database) (user : StaffUser) : Except Failure Database :=
  let taken := db.staff.users.rows.any fun other => other.email = user.email
  match if taken then none else db.staff.users.insert? user with
  | none => .error (.conflict "Operator email already exists")
  | some users => .ok { db with staff.users := users }

/-- One transaction; a unique violation is reported by its target. -/
def insertMerchant (group : CasinoGroup) (offeredKeys : List String) (grantTo : Option String)
    (user : StaffUser) (db : Database) : Except Failure (CasinoGroup × Database) := do
  let inserted ← insertGroup db group
  let leagues := inserted.catalog.leagues.rows.map League.key
  let granted ← grantAccess grantTo group.id
    (enableLeagues group.id offeredKeys leagues inserted)
  let after ← insertUser granted user
  return (group, after)

end Queries

structure OperatorAdmin where
  email : String
  password : String
  passwordAutoGenerated : Bool
  roles : List StaffRole

structure CreatedMerchant where
  id : String
  slug : String
  name : String
  merchantId : Option String
  defaultCurrency : String
  active : Bool
  walletApiUrl : Option String
  sportsSecret : String
  enabledLeagueKeys : List String
  operatorAdmin : OperatorAdmin

section Service

variable (runtime : Runtime) (crypto : Crypto)

def merchantGroup (dto : CreateMerchantDto) (generated : Generated) : CasinoGroup where
  id := generated.casinoGroupId
  slug := dto.slug
  name := dto.name
  merchantId := some (merchantIdOf runtime dto)
  defaultCurrency := dto.defaultCurrency.getD "USD"
  active := true
  sportsSecret := some (crypto.encrypt generated.vector
    (dto.sportsSecret.getD generated.sportsSecret))
  walletApiUrl := (nonEmpty dto.walletApiUrl).map normalizeWalletApiUrl
  timezone := "UTC"

def operatorUser (dto : CreateMerchantDto) (generated : Generated) : StaffUser where
  id := generated.staffUserId
  email := operatorEmailOf runtime dto
  passwordHash := crypto.hashPassword generated.salt
    ((trimmed dto.operatorPassword).getD generated.password)
  casinoGroupId := some generated.casinoGroupId
  roles := [.operatorAdmin]
  active := true

/-- A platform admin is granted the tenant; a super admin needs no grant. -/
def autoGrantTenantAccess (staff : StaffContext) : Bool :=
  staff.casinoGroupId.isNone && hasStaffRole staff.roles .platformAdmin &&
    !hasStaffRole staff.roles .superAdmin

def merchantEntry (group : CasinoGroup) (operatorEmail : String) (offeredKeys : List String)
    (staff : StaffContext) : AuditEntry where
  actorType := "staff"
  actorId := staff.staffUserId
  casinoGroupId := group.id
  action := "tenant.merchant_created"
  entityType := "CasinoGroup"
  entityId := group.id
  before := []
  after := [("slug", group.slug), ("merchantId", group.merchantId.getD "null"),
    ("walletApiUrl", group.walletApiUrl.getD "null"),
    ("enabledLeagueKeys", ",".intercalate offeredKeys),
    ("tenantAccessAutoGranted", toString (autoGrantTenantAccess staff)),
    ("operatorEmail", operatorEmail)]
  reason := some "Back office merchant onboarding"

def createMerchant (dto : CreateMerchantDto) (staff : StaffContext) (generated : Generated) :
    Service CreatedMerchant := do
  let offeredKeys := offeredKeysOf dto
  let user := operatorUser runtime crypto dto generated
  let grantTo := if autoGrantTenantAccess staff then some staff.staffUserId else none
  let group ← transaction
    (insertMerchant (merchantGroup runtime crypto dto generated) offeredKeys grantTo user)
  recordAudit (merchantEntry group user.email offeredKeys staff)
  return {
    id := group.id
    slug := group.slug
    name := group.name
    merchantId := group.merchantId
    defaultCurrency := group.defaultCurrency
    active := group.active
    walletApiUrl := group.walletApiUrl
    sportsSecret := dto.sportsSecret.getD generated.sportsSecret
    enabledLeagueKeys := offeredKeys
    operatorAdmin := {
      email := user.email
      password := (trimmed dto.operatorPassword).getD generated.password
      passwordAutoGenerated := (trimmed dto.operatorPassword).isNone
      roles := user.roles } }

end Service

end SportsBetting.Merchants
