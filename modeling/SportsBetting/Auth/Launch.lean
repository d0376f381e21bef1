import SportsBetting.CasinoGroups.Service
import SportsBetting.Shared.Envelope
import SportsBetting.Staff.Tokens

/-!
# Launches and the sessions of players

An operator signs a launch token with the secret of its tenant. The launch exchanges it for
a session token, and a guard lets the requests in that bring one.
-/

namespace SportsBetting.Auth

open Async Jwt CasinoGroups

open Realtime (UserContext)

/-- The part of the environment that concerns players. -/
structure AuthConfig extends TokenConfig where
  /-- In seconds. -/
  OPERATOR_JWT_CLOCK_SKEW : ℕ
  AUTH_ALLOW_HEADER_FALLBACK : Bool

structure MerchantCredentials where
  group : CasinoGroupContext
  sportsSecret : String

structure OperatorTokenPayload where
  userId : String
  username : String
  merchantId : String

/-- The launch tokens are kept with their claims. -/
structure VerifiedLaunch where
  payload : OperatorTokenPayload
  credentials : MerchantCredentials
  claims : Claims
  time : Time

structure LaunchResponse (jwt : Format) where
  sessionToken : jwt.Token
  expiresIn : String
  user : UserContext
  casinoGroupSlug : String

/-- The headers that are read of a player's request. -/
structure Request where
  authorization : Option String := none
  casinoGroup : Option String := none

section State

/-- A row that was read for its secret, while it was active. -/
structure Reading where
  group : CasinoGroup
  time : Time
  deriving DecidableEq

/-- A session that was handed out for a launch token. -/
structure Launch (jwt : Format) where
  user : UserContext
  claims : Claims
  sportsSecret : String
  time : Time
  session : jwt.Token

/-- A request that got past the guard. -/
structure Visit where
  user : Option UserContext
  group : CasinoGroupContext
  time : Time

structure State (jwt : Format) where
  db : Database
  cache : Cache
  clock : Time
  /-- What operators, and whoever else holds a secret, have signed. -/
  signed : List (String × Payload)
  readings : List Reading
  launches : List (Launch jwt)
  visits : List Visit

/-- All tokens that there are. -/
def State.tokens {jwt : Format} (state : State jwt) : List jwt.Token :=
  state.signed.map (fun signature => jwt.sign signature.1 signature.2) ++
    state.launches.map Launch.session

end State

section Calls

variable (jwt : Format)

inductive AuthCall : Type → Type 1
  | cache {Reply : Type} (call : CacheCall Reply) : AuthCall Reply
  /-- A request comes in with this token, at some time. -/
  | arrive (token : Option String) : AuthCall Time
  /-- With the time of the reply. -/
  | findCredentials (merchantId : String) : AuthCall (Option CasinoGroup × Time)
  /-- Somebody signs a token. -/
  | sign (secret : String) (payload : Payload) : AuthCall Unit
  /-- The session token is sent to the player. -/
  | respond (launch : Launch jwt) : AuthCall Unit
  /-- The route is entered. -/
  | enter (visit : Visit) : AuthCall Unit

variable {jwt} {Reply : Type}

def findMerchant (merchantId : String) (db : Database) : Option CasinoGroup :=
  db.catalog.casinoGroups.rows.find? fun group =>
    group.merchantId = some merchantId && group.active

/-- A call that meets no fault. -/
def AuthCall.run (call : AuthCall jwt Reply) (state : State jwt) :
    Except Failure Reply × State jwt :=
  match call with
  | .cache call =>
      let answer := call.run ⟨state.db, state.cache, state.clock, []⟩
      (answer.1, { state with cache := answer.2.cache })
  | .arrive _ => (.ok state.clock, state)
  | .findCredentials merchantId =>
      let group := findMerchant merchantId state.db
      let reading := group.toList.map fun group => ⟨group, state.clock⟩
      (.ok (group, state.clock), { state with readings := state.readings ++ reading })
  | .sign secret payload => (.ok (), { state with signed := state.signed ++ [(secret, payload)] })
  | .respond launch => (.ok (), { state with launches := state.launches ++ [launch] })
  | .enter visit => (.ok (), { state with visits := state.visits ++ [visit] })

variable (jwt) in
/-- Events are the passing of milliseconds. -/
@[reducible] def server : Server (AuthCall jwt) Failure Database where
  State := State jwt
  Event := ℕ
  run := AuthCall.run
  store := State.db
  update state db := { state with db }
  occur passed state := { state with clock := state.clock + passed }
  lost := .database

variable (jwt) in
abbrev authMachine : Machine (Joint (AuthCall jwt) (Query Database Failure)) Failure :=
  (server jwt).machine

variable (jwt) in
abbrev AuthService := Program (Joint (AuthCall jwt) (Query Database Failure)) Failure

def own {α : Type} (call : AuthCall jwt α) : AuthService jwt α := Program.call (.own call)

/-- A check that awaits nothing. -/
def checked {α : Type} (result : Except Failure α) : AuthService jwt α := .done result

def ofCache {Reply : Type} : Joint CacheCall (Query Database Failure) Reply →
    Joint (AuthCall jwt) (Query Database Failure) Reply
  | .own call => .own (.cache call)
  | .other query => .other query

def tenants {α : Type} (service : CacheService α) : AuthService jwt α := service.mapCalls ofCache

end Calls

section Services

variable (jwt : Format) (config : AuthConfig) (crypto : CryptoService) (runtime : Text.Runtime)

/-- Whole seconds since the epoch. -/
def seconds (time : Time) : ℤ := time / 1000

/-- A row without a secret is as good as none. -/
def getMerchantCredentials (merchantId : String) :
    AuthService jwt (Option MerchantCredentials × Time) := do
  let (row, time) ← own (.findCredentials merchantId)
  match row with
  | none => pure (none, time)
  | some row =>
      match nonEmpty row.sportsSecret with
      | none => pure (none, time)
      | some stored => do
          let sportsSecret ← checked (crypto.decrypt stored)
          pure (some ⟨groupContext row, sportsSecret⟩, time)

namespace OperatorTokenVerifier

def invalid : Failure := .unauthorized "Invalid launch token"

/-- Read without a check of the signature. -/
def decodedMerchantId (token : String) : Option String :=
  match (jwt.parse token).bind jwt.decode with
  | some (.claims members) =>
      match members.lookup "merchantId" with
      | some (.text merchantId) => nonEmpty (some merchantId)
      | _ => none
  | _ => none

/-- Who the token is for, if it was signed with the secret. -/
def verified (token : String) (merchantId : String) (credentials : MerchantCredentials)
    (time : Time) : Except Failure VerifiedLaunch :=
  match (jwt.parse token).bind fun token =>
    jwt.verifyWithin config.OPERATOR_JWT_CLOCK_SKEW credentials.sportsSecret token (seconds time) with
  | some (.claims payload) =>
      match payload.lookup "userId", payload.lookup "username" with
      | some (.text userId), some (.text username) =>
          .ok ⟨⟨userId, username, merchantId⟩, credentials, payload, time⟩
      | _, _ => .error invalid
  | _ => .error invalid

def verify (token : String) : AuthService jwt VerifiedLaunch :=
  match decodedMerchantId jwt token with
  | none => throw invalid
  | some merchantId => do
      let (credentials, time) ← getMerchantCredentials jwt crypto merchantId
      match credentials with
      | none => throw invalid
      | some credentials => checked (verified jwt config token merchantId credentials time)

end OperatorTokenVerifier

/-- The player that a session is for. -/
def VerifiedLaunch.user (launch : VerifiedLaunch) : UserContext :=
  ⟨launch.payload.userId, launch.payload.username, launch.credentials.group.id,
    launch.credentials.group.defaultCurrency⟩

def invalidLifetime : Failure :=
  .error "\"expiresIn\" should be a number of seconds or string representing a timespan"

def launch (token : Option String) : AuthService jwt (LaunchResponse jwt) := do
  let _ ← own (.arrive token)
  match nonEmpty token with
  | none => throw (.badRequest "Missing launch token")
  | some token => do
      let launch ← OperatorTokenVerifier.verify jwt config crypto token
      match SessionService.mint jwt.toScheme config.toTokenConfig launch.user
        (seconds launch.time) with
      | none => throw invalidLifetime
      | some session => do
          own (.respond ⟨launch.user, launch.claims, launch.credentials.sportsSecret, launch.time,
            session.sessionToken⟩)
          pure ⟨session.sessionToken, session.expiresIn, launch.user,
            launch.credentials.group.slug⟩

namespace PlayerAuthGuard

def bearerToken (request : Request) : Option String :=
  match nonEmpty request.authorization with
  | none => none
  | some header =>
      match header.toList.splitOn ' ' with
      | scheme :: value :: _ =>
          if runtime.toLowerCase (String.ofList scheme) = "bearer" then
            nonEmpty (some (String.ofList value))
          else none
      | _ => none

def session (token : String) (time : Time) : Except Failure UserContext :=
  match jwt.parse token with
  | none => .error (.unauthorized "Invalid or expired session")
  | some token => SessionService.verify jwt.toScheme config.toTokenConfig token (seconds time)

/-- The tenant that was resolved, or a refusal. -/
def found (group : Option CasinoGroupContext) : Except Failure CasinoGroupContext :=
  match group with
  | none => .error (.forbidden "Unknown or inactive casino group")
  | some group => .ok group

/-- The request comes in with its token. -/
def canActivate (request : Request) : AuthService jwt Visit := do
  let token := bearerToken runtime request
  let time ← own (.arrive token)
  match token with
  | some token => do
      let user ← checked (session jwt config token time)
      let group ← tenants (resolveActiveById user.casinoGroupId)
      let group ← checked (found group)
      pure ⟨some user, group, time⟩
  | none =>
      match if config.AUTH_ALLOW_HEADER_FALLBACK then nonEmpty request.casinoGroup else none with
      | none => throw (.unauthorized "Authentication required")
      | some slug => do
          let group ← tenants (resolveActiveBySlug slug)
          let group ← checked (found group)
          pure ⟨none, group, time⟩

end PlayerAuthGuard

/-- Routes that inject the current user need one. -/
def currentUser (visit : Visit) : Except Failure UserContext :=
  match visit.user with
  | none => .error (.unauthorized "Authentication required")
  | some user => .ok user

/-- A request to a route, which may need the current user. -/
def visit (request : Request) (needsUser : Bool) : AuthService jwt Visit := do
  let visit ← PlayerAuthGuard.canActivate jwt config runtime request
  checked (if needsUser then (currentUser visit).map fun _ => () else .ok ())
  own (.enter visit)
  pure visit

end Services

section Actions

/-- What goes on around the players' routes. Other services query the database. -/
inductive AuthAction
  | sign (secret : String) (payload : Payload)
  | launch (token : Option String)
  | visit (request : Request) (needsUser : Bool)
  | patchTenant (casinoGroupId : String) (dto : PatchTenantDto) (staffUserId : String)
  | other (service : Service Unit)

variable (jwt : Format) (config : AuthConfig) (crypto : CryptoService) (runtime : Text.Runtime)

def AuthAction.program : AuthAction → AuthService jwt Unit
  | .sign secret payload => own (.sign secret payload)
  | .launch token => (Auth.launch jwt config crypto token).void
  | .visit request needsUser => (Auth.visit jwt config runtime request needsUser).void
  | .patchTenant casinoGroupId dto staffUserId =>
      (tenants (CasinoGroups.patchTenant casinoGroupId dto staffUserId)).void
  | .other service => service.mapCalls .other

/-- Any number of actions that interleave, on a database and a cache at some time. -/
def actions (actions : List AuthAction) (db : Database) (cache : Cache) (clock : Time) :
    Config (authMachine jwt) :=
  ⟨⟨db, cache, clock, [], [], [], []⟩,
    actions.map (AuthAction.program jwt config crypto runtime)⟩

end Actions

end SportsBetting.Auth
