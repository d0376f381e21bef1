import SportsBetting.Realtime.Gateway
import SportsBetting.Shared.JsonWebToken

/-!
# The tokens of players and of staff

Both are signed claims, perhaps under one secret. A player's token has no type, and a
staff token has neither a username nor a currency, so that neither passes for the other.
-/

namespace SportsBetting

open Jwt

/-- The part of the environment that signs tokens. -/
structure TokenConfig where
  SESSION_JWT_SECRET : String
  SESSION_TTL : String
  STAFF_JWT_SECRET : String
  STAFF_ACCESS_TTL : String

section Permissions

inductive StaffPermission
  | tenantRead | tenantUpdate | tenantCreate | productLeaguesRead | productLeaguesUpdate
  | staffRead | staffTenantAccessRead | staffTenantAccessUpdate | staffOperatorRead
  | staffOperatorUpdate | tradingRead | tradingSuspend | tradingLimitsRead | tradingLimitsUpdate
  | betsRead | betsVoid | settlementRead | settlementRun | analyticsRead | complianceAuditRead
  deriving DecidableEq

def StaffPermission.text : StaffPermission → String
  | .tenantRead => "tenant.read"
  | .tenantUpdate => "tenant.update"
  | .tenantCreate => "tenant.create"
  | .productLeaguesRead => "product.leagues.read"
  | .productLeaguesUpdate => "product.leagues.update"
  | .staffRead => "staff.read"
  | .staffTenantAccessRead => "staff.tenant_access.read"
  | .staffTenantAccessUpdate => "staff.tenant_access.update"
  | .staffOperatorRead => "staff.operator.read"
  | .staffOperatorUpdate => "staff.operator.update"
  | .tradingRead => "trading.read"
  | .tradingSuspend => "trading.suspend"
  | .tradingLimitsRead => "trading.limits.read"
  | .tradingLimitsUpdate => "trading.limits.update"
  | .betsRead => "bets.read"
  | .betsVoid => "bets.void"
  | .settlementRead => "settlement.read"
  | .settlementRun => "settlement.run"
  | .analyticsRead => "analytics.read"
  | .complianceAuditRead => "compliance.audit.read"

def STAFF_PERMISSIONS : List StaffPermission :=
  [.tenantRead, .tenantUpdate, .tenantCreate, .productLeaguesRead, .productLeaguesUpdate,
    .staffRead, .staffTenantAccessRead, .staffTenantAccessUpdate, .staffOperatorRead,
    .staffOperatorUpdate, .tradingRead, .tradingSuspend, .tradingLimitsRead, .tradingLimitsUpdate,
    .betsRead, .betsVoid, .settlementRead, .settlementRun, .analyticsRead, .complianceAuditRead]

/-- Cross-tenant fleet operations. -/
def PLATFORM_OPS_PERMISSIONS : List StaffPermission :=
  [.tenantRead, .tenantCreate, .tenantUpdate, .productLeaguesRead, .productLeaguesUpdate,
    .tradingRead, .tradingSuspend, .tradingLimitsRead, .tradingLimitsUpdate, .betsRead, .betsVoid,
    .settlementRead, .settlementRun, .analyticsRead, .complianceAuditRead, .staffOperatorRead,
    .staffOperatorUpdate]

/-- Full admin within one casino group. -/
def TENANT_OPERATOR_PERMISSIONS : List StaffPermission :=
  STAFF_PERMISSIONS.filter fun permission =>
    permission ≠ .tenantCreate && permission ≠ .staffRead && permission ≠ .settlementRun &&
      permission ≠ .staffTenantAccessRead && permission ≠ .staffTenantAccessUpdate &&
      permission ≠ .staffOperatorUpdate

def ROLE_PERMISSIONS : StaffRole → List StaffPermission
  | .superAdmin => STAFF_PERMISSIONS
  | .platformAdmin => PLATFORM_OPS_PERMISSIONS
  | .operatorAdmin => TENANT_OPERATOR_PERMISSIONS
  | .trader => [.tenantRead, .productLeaguesRead, .productLeaguesUpdate, .tradingRead,
      .tradingSuspend, .tradingLimitsRead, .betsRead, .settlementRead]
  | .riskManager => [.tenantRead, .productLeaguesRead, .tradingRead, .tradingLimitsRead,
      .tradingLimitsUpdate, .betsRead, .analyticsRead]
  | .customerSupport => [.tenantRead, .productLeaguesRead, .betsRead, .betsVoid,
      .complianceAuditRead]
  | .settlement => [.tenantRead, .productLeaguesRead, .betsRead, .settlementRead,
      .complianceAuditRead]
  | .finance => [.tenantRead, .productLeaguesRead, .betsRead, .analyticsRead,
      .complianceAuditRead]
  | .compliance => [.tenantRead, .complianceAuditRead, .betsRead]

/-- Each permission once, in the order it is first given. -/
def permissionsForRoles (roles : List StaffRole) : List StaffPermission :=
  (roles.flatMap ROLE_PERMISSIONS).foldl (fun set permission =>
    if permission ∈ set then set else set ++ [permission]) []

def StaffRole.text : StaffRole → String
  | .superAdmin => "SUPER_ADMIN"
  | .platformAdmin => "PLATFORM_ADMIN"
  | .operatorAdmin => "OPERATOR_ADMIN"
  | .trader => "TRADER"
  | .riskManager => "RISK_MANAGER"
  | .customerSupport => "CUSTOMER_SUPPORT"
  | .settlement => "SETTLEMENT"
  | .finance => "FINANCE"
  | .compliance => "COMPLIANCE"

end Permissions

variable (jwt : Scheme) (config : TokenConfig)

namespace SessionService

open Realtime (UserContext)

structure IssuedSession where
  sessionToken : jwt.Token
  expiresIn : String

def claims (user : UserContext) : Claims :=
  [("sub", .text user.userId), ("username", .text user.username),
    ("casinoGroupId", .text user.casinoGroupId), ("currency", .text user.currency)]

/-- Fails where the lifetime is none. -/
def mint (user : UserContext) (now : ℤ) : Option (IssuedSession jwt) :=
  (jwt.issue config.SESSION_JWT_SECRET config.SESSION_TTL (claims user) now).map fun token =>
    ⟨token, config.SESSION_TTL⟩

def verify (token : jwt.Token) (now : ℤ) : Except Failure UserContext :=
  match jwt.verify config.SESSION_JWT_SECRET token now with
  | none | some (.text _) => .error (.unauthorized "Invalid or expired session")
  | some (.claims payload) =>
      match payload.lookup "sub", payload.lookup "username", payload.lookup "casinoGroupId",
        payload.lookup "currency" with
      | some (.text sub), some (.text username), some (.text casinoGroupId),
          some (.text currency) => .ok ⟨sub, username, casinoGroupId, currency⟩
      | _, _, _, _ => .error (.unauthorized "Invalid session claims")

end SessionService

namespace StaffJwtService

structure AccessToken where
  accessToken : jwt.Token
  expiresIn : String

/-- What a token says about a member of staff. The elements of its lists and its group are
not looked at. -/
structure VerifiedStaff where
  staffUserId : String
  email : String
  casinoGroupId : Json
  roles : List Json
  permissions : List Json

def groupJson (casinoGroupId : Option String) : Json :=
  match casinoGroupId with
  | none => .null
  | some casinoGroupId => .text casinoGroupId

def rolesJson (roles : List StaffRole) : List Json := roles.map fun role => .text role.text

def permissionsJson (permissions : List StaffPermission) : List Json :=
  permissions.map fun permission => .text permission.text

def claims (user : StaffUser) : Claims :=
  [("sub", .text user.id), ("email", .text user.email),
    ("casinoGroupId", groupJson user.casinoGroupId), ("roles", .array (rolesJson user.roles)),
    ("permissions", .array (permissionsJson (permissionsForRoles user.roles))),
    ("typ", .text "staff")]

def mintAccessToken (user : StaffUser) (now : ℤ) : Option (AccessToken jwt) :=
  (jwt.issue config.STAFF_JWT_SECRET config.STAFF_ACCESS_TTL (claims user) now).map fun token =>
    ⟨token, config.STAFF_ACCESS_TTL⟩

def invalid : Failure := .unauthorized "Invalid or expired staff session"

def verifyAccessToken (token : jwt.Token) (now : ℤ) : Except Failure VerifiedStaff :=
  match jwt.verify config.STAFF_JWT_SECRET token now with
  | none | some (.text _) => .error invalid
  | some (.claims payload) =>
      match payload.lookup "typ" with
      | some (.text "staff") =>
          match payload.lookup "sub", payload.lookup "email", payload.lookup "roles",
            payload.lookup "permissions" with
          | some (.text sub), some (.text email), some (.array roles), some (.array permissions) =>
              .ok ⟨sub, email, (payload.lookup "casinoGroupId").getD .null, roles, permissions⟩
          | _, _, _, _ => .error invalid
      | _ => .error invalid

/-- The member as the token is to say it. -/
def identity (user : StaffUser) : VerifiedStaff :=
  ⟨user.id, user.email, groupJson user.casinoGroupId, rolesJson user.roles,
    permissionsJson (permissionsForRoles user.roles)⟩

end StaffJwtService

section Apart

open SessionService StaffJwtService Scheme

variable {jwt} {config}

/-- A token whose claims have no type is no staff token. -/
theorem verifyAccessToken_untyped {secret expiresIn : String} {claims : Claims} {issued : ℤ}
    {token : jwt.Token} (signed : jwt.issue secret expiresIn claims issued = some token)
    (untyped : claims.lookup "typ" = none) (now : ℤ) :
    verifyAccessToken jwt config token now = .error invalid := by
  unfold verifyAccessToken
  cases verified : jwt.verify config.STAFF_JWT_SECRET token now with
  | none => rfl
  | some payload =>
      obtain ⟨seconds, _, rfl⟩ := verify_of_issue signed verified
      have missing : (stamped claims issued seconds).lookup "typ" = none := by
        unfold stamped
        rw [List.lookup_append, untyped]
        rfl
      simp only [missing]

/-- A token whose claims have no username is no session. -/
theorem verify_nameless {secret expiresIn : String} {claims : Claims} {issued : ℤ}
    {token : jwt.Token} (signed : jwt.issue secret expiresIn claims issued = some token)
    (nameless : claims.lookup "username" = none) (now : ℤ) :
    ∃ message, SessionService.verify jwt config token now = .error (.unauthorized message) := by
  unfold SessionService.verify
  cases verified : jwt.verify config.SESSION_JWT_SECRET token now with
  | none => exact ⟨_, rfl⟩
  | some payload =>
      obtain ⟨seconds, _, rfl⟩ := verify_of_issue signed verified
      have missing : (stamped claims issued seconds).lookup "username" = none := by
        unfold stamped
        rw [List.lookup_append, nameless]
        rfl
      refine ⟨"Invalid session claims", ?_⟩
      dsimp only
      split
      · next named _ _ =>
          rw [missing] at named
          cases named
      · rfl

theorem verify_mint {user : Realtime.UserContext} {issued now seconds : ℤ}
    {session : IssuedSession jwt} (minted : mint jwt config user issued = some session)
    (lasts : jwt.seconds config.SESSION_TTL = some seconds) (intime : now < issued + seconds) :
    SessionService.verify jwt config session.sessionToken now = .ok user := by
  obtain ⟨token, signed, rfl⟩ := Option.map_eq_some_iff.mp minted
  unfold SessionService.verify
  rw [verify_issued signed rfl lasts intime]
  rfl

theorem verifyAccessToken_mint {user : StaffUser} {issued now seconds : ℤ}
    {access : AccessToken jwt} (minted : mintAccessToken jwt config user issued = some access)
    (lasts : jwt.seconds config.STAFF_ACCESS_TTL = some seconds) (intime : now < issued + seconds) :
    verifyAccessToken jwt config access.accessToken now = .ok (identity user) := by
  obtain ⟨token, signed, rfl⟩ := Option.map_eq_some_iff.mp minted
  unfold verifyAccessToken
  rw [verify_issued signed rfl lasts intime]
  rfl

/-- Whatever the two secrets are, neither verifier takes a token of the other's, and each reads
from its own what was signed. -/
theorem tokens_kept_apart (jwt : Scheme) (config : TokenConfig) :
    (∀ user issued session, mint jwt config user issued = some session → ∀ now, ∃ message,
      verifyAccessToken jwt config session.sessionToken now = .error (.unauthorized message)) ∧
    (∀ user issued access, mintAccessToken jwt config user issued = some access → ∀ now, ∃ message,
      SessionService.verify jwt config access.accessToken now = .error (.unauthorized message)) ∧
    (∀ user issued session, mint jwt config user issued = some session → ∀ seconds,
      jwt.seconds config.SESSION_TTL = some seconds → ∀ now < issued + seconds,
        SessionService.verify jwt config session.sessionToken now = .ok user) ∧
    (∀ user issued access, mintAccessToken jwt config user issued = some access → ∀ seconds,
      jwt.seconds config.STAFF_ACCESS_TTL = some seconds → ∀ now < issued + seconds,
        verifyAccessToken jwt config access.accessToken now = .ok (identity user)) := by
  refine ⟨?_, ?_, ?_, ?_⟩
  · intro user issued session minted now
    obtain ⟨token, signed, rfl⟩ := Option.map_eq_some_iff.mp minted
    exact ⟨_, verifyAccessToken_untyped signed rfl now⟩
  · intro user issued access minted now
    obtain ⟨token, signed, rfl⟩ := Option.map_eq_some_iff.mp minted
    exact verify_nameless signed rfl now
  · intro user issued session minted seconds lasts now intime
    exact verify_mint minted lasts intime
  · intro user issued access minted seconds lasts now intime
    exact verifyAccessToken_mint minted lasts intime

end Apart

section OneSecret

open SessionService StaffJwtService

def oneSecret : TokenConfig := ⟨"one-secret-for-all", "30m", "one-secret-for-all", "15m"⟩

def inMinutes : String → Option ℤ
  | "30m" => some 1800
  | "15m" => some 900
  | _ => none

def ann : Realtime.UserContext := ⟨"ann", "Ann", "group", "EUR"⟩

def root : StaffUser := ⟨"root", "root@ops", "", none, [.superAdmin, .trader], true⟩

theorem oneSecret_kept_apart : ∃ session access,
    mint (.plain inMinutes) oneSecret ann 0 = some session ∧
    mintAccessToken (.plain inMinutes) oneSecret root 0 = some access ∧
    (∃ message, verifyAccessToken (.plain inMinutes) oneSecret session.sessionToken 60 =
      .error (.unauthorized message)) ∧
    (∃ message, SessionService.verify (.plain inMinutes) oneSecret access.accessToken 60 =
      .error (.unauthorized message)) ∧
    SessionService.verify (.plain inMinutes) oneSecret session.sessionToken 60 = .ok ann ∧
    verifyAccessToken (.plain inMinutes) oneSecret access.accessToken 60 = .ok (identity root) := by
  obtain ⟨sessionApart, accessApart, sessionRead, accessRead⟩ :=
    tokens_kept_apart (.plain inMinutes) oneSecret
  exact ⟨_, _, rfl, rfl, sessionApart ann 0 _ rfl 60, accessApart root 0 _ rfl 60,
    sessionRead ann 0 _ rfl 1800 rfl 60 (by decide), accessRead root 0 _ rfl 900 rfl 60 (by decide)⟩

end OneSecret

end SportsBetting
