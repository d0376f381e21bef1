import SportsBetting.Async.Joint
import SportsBetting.Backoffice.Merchants

/-!
# Resolving a tenant

The tenants that are resolved are cached, under their slug and under their id. A
back-office update of a tenant deletes both keys.
-/

namespace SportsBetting.CasinoGroups

open Async

structure CasinoGroupContext where
  id : String
  slug : String
  name : String
  defaultCurrency : String
  timezone : String
  deriving DecidableEq

def CACHE_PREFIX : String := "casino-group:slug:"

def CACHE_ID_PREFIX : String := "casino-group:id:"

def CACHE_TTL_SECONDS : ℕ := 60

/-- The keys that an invalidation deletes. -/
def cacheKeys (id slug : String) : List String := [CACHE_PREFIX ++ slug, CACHE_ID_PREFIX ++ id]

structure CacheEntry where
  key : String
  group : CasinoGroupContext
  expiresAt : Time
  deriving DecidableEq

abbrev Cache := Table CacheEntry CacheEntry.key

structure State where
  db : Database
  cache : Cache
  clock : Time
  /-- The tenants whose keys were deleted while they were disabled. -/
  closed : List String

/-- The row of the tenant is there, and not active. -/
def Disabled (casinoGroupId : String) (db : Database) : Prop :=
  (db.catalog.casinoGroups.get? casinoGroupId).map CasinoGroup.active = some false

instance (casinoGroupId : String) (db : Database) : Decidable (Disabled casinoGroupId db) :=
  inferInstanceAs (Decidable (_ = _))

inductive CacheCall : Type → Type
  | get (key : String) : CacheCall (Option CasinoGroupContext)
  | set (key : String) (group : CasinoGroupContext) : CacheCall Unit
  | del (group : CasinoGroupContext) : CacheCall Unit

/-- A call that meets no fault. -/
def CacheCall.run {Reply : Type} (call : CacheCall Reply) (state : State) :
    Except Failure Reply × State :=
  match call with
  | .get key =>
      let live := (state.cache.get? key).filter fun entry => state.clock ≤ entry.expiresAt
      (.ok (live.map CacheEntry.group), state)
  | .set key group =>
      (.ok (), { state with
        cache := state.cache.put ⟨key, group, state.clock + CACHE_TTL_SECONDS * 1000⟩ })
  | .del group =>
      let keys := cacheKeys group.id group.slug
      let closed := if Disabled group.id state.db then [group.id] else []
      (.ok (), { state with
        cache := state.cache.deleteWhere fun entry => keys.contains entry.key
        closed := closed ++ state.closed })

/-- The tenant that the call writes to the cache. -/
def CacheCall.writes {Reply : Type} : CacheCall Reply → Option CasinoGroupContext
  | .set _ group => some group
  | _ => none

/-- Events are the passing of milliseconds. -/
@[reducible] def server : Server CacheCall Failure Database where
  State := State
  Event := ℕ
  run := CacheCall.run
  store := State.db
  update state db := { state with db }
  occur passed state := { state with clock := state.clock + passed }
  lost := .database

abbrev cacheMachine : Machine (Joint CacheCall (Query Database Failure)) Failure := server.machine

abbrev CacheService := Program (Joint CacheCall (Query Database Failure)) Failure

def redis {α : Type} (call : CacheCall α) : CacheService α := Program.call (.own call)

def prisma {α : Type} (service : Service α) : CacheService α := service.mapCalls .other

section Resolvers

def readCache (key : String) : CacheService (Option CasinoGroupContext) :=
  (redis (.get key)).handle fun _ => pure none

/-- Cache is best-effort. -/
def writeCache (key : String) (group : CasinoGroupContext) : CacheService Unit :=
  (redis (.set key group)).handle fun _ => pure ()

def groupContext (group : CasinoGroup) : CasinoGroupContext :=
  ⟨group.id, group.slug, group.name, group.defaultCurrency, group.timezone⟩

def findActive (chosen : CasinoGroup → Bool) (db : Database) : Option CasinoGroupContext :=
  (db.catalog.casinoGroups.rows.find? fun group => chosen group && group.active).map groupContext

/-- What the two resolvers have in common. -/
def resolveActive (key : String) (chosen : CasinoGroup → Bool) :
    CacheService (Option CasinoGroupContext) := do
  let cached ← readCache key
  match cached with
  | some group => pure (some group)
  | none => do
      let group ← prisma (read (findActive chosen))
      match group with
      | none => pure none
      | some group => do
          writeCache key group
          pure (some group)

def resolveActiveBySlug (slug : String) : CacheService (Option CasinoGroupContext) :=
  resolveActive (CACHE_PREFIX ++ slug) fun group => group.slug = slug

def resolveActiveById (id : String) : CacheService (Option CasinoGroupContext) :=
  resolveActive (CACHE_ID_PREFIX ++ id) fun group => group.id = id

end Resolvers

section Patch

/-- A field that is left out stays as it is; an empty wallet URL is removed. -/
structure PatchTenantDto where
  name : Option String := none
  defaultCurrency : Option String := none
  timezone : Option String := none
  active : Option Bool := none
  walletApiUrl : Option (Option String) := none

structure Tenant where
  id : String
  slug : String
  name : String
  defaultCurrency : String
  timezone : String
  active : Bool
  merchantId : Option String
  walletApiUrl : Option String

def tenant (group : CasinoGroup) : Tenant :=
  ⟨group.id, group.slug, group.name, group.defaultCurrency, group.timezone, group.active,
    group.merchantId, group.walletApiUrl⟩

def Tenant.context (tenant : Tenant) : CasinoGroupContext :=
  ⟨tenant.id, tenant.slug, tenant.name, tenant.defaultCurrency, tenant.timezone⟩

def Tenant.columns (tenant : Tenant) : List (String × String) :=
  [("id", tenant.id), ("slug", tenant.slug), ("name", tenant.name),
    ("defaultCurrency", tenant.defaultCurrency), ("timezone", tenant.timezone),
    ("status", if tenant.active then "ACTIVE" else "DISABLED"),
    ("merchantId", tenant.merchantId.getD "null"),
    ("walletApiUrl", tenant.walletApiUrl.getD "null")]

def getTenant (casinoGroupId : String) : Service Tenant := do
  let group ← read fun db => db.catalog.casinoGroups.get? casinoGroupId
  match group with
  | none => throw (.notFound "Casino group not found")
  | some group => pure (tenant group)

def patched (dto : PatchTenantDto) (group : CasinoGroup) : CasinoGroup :=
  { group with
    name := dto.name.getD group.name
    defaultCurrency := dto.defaultCurrency.getD group.defaultCurrency
    timezone := dto.timezone.getD group.timezone
    active := dto.active.getD group.active
    walletApiUrl := match dto.walletApiUrl with
      | none => group.walletApiUrl
      | some url => (nonEmpty url).map Merchants.normalizeWalletApiUrl }

def updateGroup (casinoGroupId : String) (dto : PatchTenantDto) (db : Database) :
    Except Failure (Tenant × Database) :=
  match db.catalog.casinoGroups.get? casinoGroupId with
  | none => .error .database
  | some group =>
      let updated := patched dto group
      .ok (tenant updated, { db with catalog.casinoGroups := db.catalog.casinoGroups.put updated })

def invalidate (group : CasinoGroupContext) : CacheService Unit := redis (.del group)

def tenantEntry (casinoGroupId staffUserId : String) (before after : Tenant) : AuditEntry where
  actorType := "staff"
  actorId := staffUserId
  casinoGroupId := casinoGroupId
  action := "tenant.updated"
  entityType := "CasinoGroup"
  entityId := casinoGroupId
  before := before.columns
  after := after.columns
  reason := none

def patchTenant (casinoGroupId : String) (dto : PatchTenantDto) (staffUserId : String) :
    CacheService Tenant := do
  let before ← prisma (getTenant casinoGroupId)
  let updated ← prisma (transaction (updateGroup casinoGroupId dto))
  invalidate updated.context
  prisma (recordAudit (tenantEntry casinoGroupId staffUserId before updated))
  pure updated

end Patch

inductive TenantAction
  | resolveActiveBySlug (slug : String)
  | resolveActiveById (id : String)
  | patchTenant (casinoGroupId : String) (dto : PatchTenantDto) (staffUserId : String)

/-- The tenant that the action sets active. -/
def TenantAction.enables : TenantAction → Option String
  | .patchTenant casinoGroupId dto _ => if dto.active = some true then some casinoGroupId else none
  | _ => none

/-- Ends without a failure if the resolver returns the tenant. -/
def returns (casinoGroupId : String) (resolver : CacheService (Option CasinoGroupContext)) :
    CacheService Unit := do
  let group ← resolver
  if group.map CasinoGroupContext.id = some casinoGroupId then pure ()
  else throw (.forbidden "Unknown or inactive casino group")

/-- Of a resolver it matters whether it returns the tenant. -/
def TenantAction.program (casinoGroupId : String) : TenantAction → CacheService Unit
  | .resolveActiveBySlug slug => returns casinoGroupId (CasinoGroups.resolveActiveBySlug slug)
  | .resolveActiveById id => returns casinoGroupId (CasinoGroups.resolveActiveById id)
  | .patchTenant patched dto staffUserId =>
      (CasinoGroups.patchTenant patched dto staffUserId).void

/-- Any number of actions that interleave, on a database and a cache at some time. -/
def tenantActions (casinoGroupId : String) (actions : List TenantAction) (db : Database)
    (cache : Cache) (clock : Time) : Config cacheMachine :=
  ⟨⟨db, cache, clock, []⟩, actions.map (TenantAction.program casinoGroupId)⟩

end SportsBetting.CasinoGroups
