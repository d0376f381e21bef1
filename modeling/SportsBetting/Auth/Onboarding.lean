import SportsBetting.Async.Solo
import SportsBetting.Auth.Sessions
import SportsBetting.Backoffice.Offering
import SportsBetting.Staff.Auth

/-!
# What a new merchant is handed

The secret that onboarding returns signs launch tokens, and the password opens the back
office, although the database holds neither of them.
-/

namespace SportsBetting.Auth

open Async Jwt CasinoGroups Merchants

open Realtime (UserContext)

section Inserted

variable {db after : Database}

theorem find?_of_unique {α : Type} {rows : List α} {chosen : α → Bool} {row : α}
    (member : row ∈ rows) (picked : chosen row = true)
    (unique : ∀ other ∈ rows, chosen other = true → other = row) : rows.find? chosen = some row := by
  cases found : rows.find? chosen with
  | none => exact absurd picked (List.find?_eq_none.mp found row member)
  | some other =>
      have kept := List.find?_some found
      rw [unique other (List.mem_of_find?_eq_some found) kept]

theorem insertGroup_unique {group : CasinoGroup} (done : insertGroup db group = .ok after) :
    after.staff = db.staff ∧ group ∈ after.catalog.casinoGroups ∧
      ∀ other ∈ after.catalog.casinoGroups, group.merchantId.isSome = true →
        other.merchantId = group.merchantId → other = group := by
  unfold insertGroup at done
  dsimp only at done
  split at done
  · cases done
  · next casinoGroups found =>
      rw [← Except.ok.inj done]
      split at found
      · cases found
      · next free =>
          have members := (Table.insert?_spec found).2
          refine ⟨rfl, (members group).mpr (.inr rfl), fun other stored named same => ?_⟩
          rcases (members other).mp stored with old | new
          · refine absurd (List.any_eq_true.mpr ⟨other, old, ?_⟩) free
            simp [named, same]
          · exact new

theorem insertUser_unique {user : StaffUser} (done : insertUser db user = .ok after) :
    after.staff.sessions = db.staff.sessions ∧ user ∈ after.staff.users ∧
      ∀ other ∈ after.staff.users, other.email = user.email → other = user := by
  unfold insertUser at done
  dsimp only at done
  split at done
  · cases done
  · next users found =>
      rw [← Except.ok.inj done]
      split at found
      · cases found
      · next free =>
          have members := (Table.insert?_spec found).2
          refine ⟨rfl, (members user).mpr (.inr rfl), fun other stored same => ?_⟩
          rcases (members other).mp stored with old | new
          · refine absurd (List.any_eq_true.mpr ⟨other, old, ?_⟩) free
            simp [same]
          · exact new

/-- The rows of the tenant and its operator, alone under their merchant id and e-mail. -/
structure Onboarded (group : CasinoGroup) (user : StaffUser) (db : Database) : Prop where
  stored : group ∈ db.catalog.casinoGroups
  merchant : ∀ other ∈ db.catalog.casinoGroups, other.merchantId = group.merchantId → other = group
  employed : user ∈ db.staff.users
  email : ∀ other ∈ db.staff.users, other.email = user.email → other = user

theorem insertMerchant_onboards {group created : CasinoGroup} {offeredKeys : List String}
    {grantTo : Option String} {user : StaffUser} (named : group.merchantId.isSome = true)
    (done : insertMerchant group offeredKeys grantTo user db = .ok (created, after)) :
    created = group ∧ Onboarded group user after := by
  unfold insertMerchant at done
  obtain ⟨inserted, grouped, done⟩ := Except.bind_eq_ok.mp done
  obtain ⟨granted, access, done⟩ := Except.bind_eq_ok.mp done
  obtain ⟨last, account, done⟩ := Except.bind_eq_ok.mp done
  obtain ⟨same, rfl⟩ := Prod.mk.inj (Except.pure_eq_ok.mp done)
  obtain ⟨_, stored, unique⟩ := insertGroup_unique grouped
  obtain ⟨_, member, alone⟩ := insertUser_unique account
  have grows := Product.enableLeagues_grows group.id offeredKeys
    (inserted.catalog.leagues.rows.map League.key) inserted
  have catalog := (Product.insertUser_ok account).trans (Product.grantAccess_ok access)
  have groups : last.catalog.casinoGroups = inserted.catalog.casinoGroups := by
    rw [catalog, grows.1.groups]
  refine ⟨same.symm, ?_, ?_, member, alone⟩
  · rwa [groups]
  · rw [groups]
    exact fun other found same => unique other found named same

variable {runtime : Text.Runtime} {crypto : Crypto} {dto : CreateMerchantDto}
  {staff : StaffContext} {generated : Generated} {merchant : CreatedMerchant}

/-- What follows a transaction ran on what that left. -/
theorem transaction_returns {α β : Type} {change : Database → Except Failure (α × Database)}
    {next : α → Service β} {last : Database} {value : β}
    (returned : (transaction change >>= next).eval db = (.ok value, last)) :
    ∃ reply after, change db = .ok (reply, after) ∧ (next reply).eval after = (.ok value, last) := by
  have alone : (transaction change).eval db = Query.transaction change db := rfl
  rw [Program.eval_bind, alone, Query.transaction] at returned
  cases done : change db with
  | error failure =>
      rw [done] at returned
      cases returned
  | ok result =>
      rw [done] at returned
      exact ⟨result.1, result.2, rfl, returned⟩

/-- What is returned of a new merchant is what its rows were made of. -/
theorem createMerchant_onboards
    (created : (createMerchant runtime crypto dto staff generated).eval db =
      (.ok merchant, after)) :
    let group := merchantGroup runtime crypto dto generated
    let user := operatorUser runtime crypto dto generated
    Onboarded group user after ∧ merchant.id = group.id ∧ merchant.slug = group.slug ∧
      merchant.merchantId = group.merchantId ∧ merchant.defaultCurrency = group.defaultCurrency ∧
      group.active = true ∧
      group.sportsSecret = some (crypto.encrypt generated.vector merchant.sportsSecret) ∧
      merchant.operatorAdmin.email = user.email ∧ user.active = true ∧
      user.casinoGroupId = some merchant.id ∧ user.roles = [.operatorAdmin] ∧
      user.passwordHash = crypto.hashPassword generated.salt merchant.operatorAdmin.password := by
  intro group user
  obtain ⟨reply, stored, done, rest⟩ := transaction_returns created
  obtain ⟨same, onboarded⟩ := insertMerchant_onboards rfl done
  subst reply
  obtain ⟨same, rfl⟩ := Prod.mk.inj rest
  obtain rfl := Except.ok.inj same
  exact ⟨⟨onboarded.stored, onboarded.merchant, onboarded.employed, onboarded.email⟩, rfl, rfl, rfl,
    rfl, rfl, rfl, rfl, rfl, rfl, rfl, rfl⟩

end Inserted

section Operator

open StaffAuth

theorem create?_of_fresh {sessions : StaffSessions} {hash : String}
    (fresh : ∀ session ∈ sessions.table, session.refreshTokenHash ≠ hash) (staffUserId : String)
    (expiresAt : Time) : ∃ after, sessions.create? staffUserId hash expiresAt = some after := by
  unfold StaffSessions.create?
  split
  · next taken =>
      obtain ⟨session, stored, same⟩ := Table.insert?_eq_none_iff.mp taken
      exact absurd same (fresh session stored)
  · exact ⟨_, rfl⟩

/-- With no fault, a login succeeds exactly with the password that the stored hash is of. -/
theorem login_alone {runtime : Text.Runtime} {crypto : Crypto} {refreshTtl : String} {db : Database}
    {user : StaffUser} {salt password refreshToken : String} {lasts : ℕ}
    (employed : user ∈ db.staff.users)
    (unique : ∀ other ∈ db.staff.users, other.email = user.email → other = user)
    (active : user.active = true) (hashed : user.passwordHash = crypto.hashPassword salt password)
    (settled : Text.trim (runtime.toLowerCase user.email) = user.email)
    (fresh : ∀ session ∈ db.staff.sessions.table,
      session.refreshTokenHash ≠ crypto.sha256 refreshToken)
    (configured : parseDurationMs refreshTtl = .ok lasts) (clock : Time) (candidate : String) :
    ((login runtime crypto refreshTtl user.email candidate refreshToken).solo
        (staffMachine.perform Fault.none) ⟨db, clock, [], []⟩).1 =
      if candidate = password then .ok (loginResult refreshTtl refreshToken user)
      else .error (.unauthorized "Invalid credentials") := by
  have found : findUserByEmail db (Text.trim (runtime.toLowerCase user.email)) = some user := by
    rw [settled]
    refine find?_of_unique employed (decide_eq_true rfl) fun other stored same => ?_
    exact unique other stored (of_decide_eq_true same)
  have looked : (issue (.findUserByEmail (Text.trim (runtime.toLowerCase user.email)))).solo
      (staffMachine.perform Fault.none) ⟨db, clock, [], []⟩ = (.ok (some user), ⟨db, clock, [], []⟩) := by
    rw [← found]
    rfl
  unfold login
  rw [Program.solo_bind_ok looked]
  simp only [active, Bool.not_true, Bool.false_eq_true, if_false]
  by_cases right : candidate = password
  · have verified : crypto.verify user.passwordHash candidate = true := by
      rw [hashed, crypto.verify_hash]
      exact right
    obtain ⟨sessions, created⟩ := create?_of_fresh fresh user.id (clock + lasts)
    have stored : createSession db user.id (crypto.sha256 refreshToken) (clock + lasts) =
        .ok { db with staff.sessions := sessions } := by
      unfold createSession
      rw [Table.get?_of_mem employed]
      simp [created]
    have noted : StaffAuth.State.attempt ⟨db, clock, [], []⟩
        (createSession db user.id (crypto.sha256 refreshToken) (clock + lasts)) (fun after =>
          { after with origins := after.origins ++
            [(db.staff.sessions.next, .login user.passwordHash candidate)] }) =
        (.ok (), ⟨{ db with staff.sessions := sessions }, clock,
          [(db.staff.sessions.next, .login user.passwordHash candidate)], []⟩) := by
      rw [stored]
      rfl
    have opened : ∃ after, (issue (.createSession user.id (crypto.sha256 refreshToken) lasts
        (.login user.passwordHash candidate))).solo (staffMachine.perform Fault.none)
          ⟨db, clock, [], []⟩ = (.ok (), after) := ⟨_, noted⟩
    obtain ⟨after, opened⟩ := opened
    rw [verified, configured, if_pos right]
    exact congrArg Prod.fst (Program.solo_bind_ok opened _)
  · have rejected : crypto.verify user.passwordHash candidate = false := by
      rw [hashed]
      exact Bool.eq_false_iff.mpr fun held => right ((crypto.verify_hash _ _ _).mp held)
    rw [rejected]
    simp only [Bool.not_false, if_true, right, if_false]
    rfl

end Operator

section Player

open OperatorTokenVerifier PlayerAuthGuard

variable {jwt : Format} {config : AuthConfig} {crypto : CryptoService} {runtime : Text.Runtime}
  {db : Database} {cache : Cache} {clock : Time} {group : CasinoGroup}

/-- A token that the operator has signed for a player of its tenant, at this time. -/
structure Invites (config : AuthConfig) (sportsSecret merchantId : String) (clock : Time)
    (claims : Claims) (userId username : String) : Prop where
  named : merchantId ≠ ""
  merchant : claims.lookup "merchantId" = some (.text merchantId)
  userId : claims.lookup "userId" = some (.text userId)
  username : claims.lookup "username" = some (.text username)
  unexpired : (Jwt.Payload.claims claims).unexpired
    (seconds clock - config.OPERATOR_JWT_CLOCK_SKEW) = true
  begun : (Jwt.Payload.claims claims).begun
    (seconds clock + config.OPERATOR_JWT_CLOCK_SKEW) = true

/-- The active row of a merchant id, with a secret that is decrypted. -/
structure Serves (crypto : CryptoService) (group : CasinoGroup) (merchantId sportsSecret : String)
    (db : Database) : Prop where
  stored : group ∈ db.catalog.casinoGroups
  active : group.active = true
  merchant : group.merchantId = some merchantId
  unique : ∀ other ∈ db.catalog.casinoGroups, other.merchantId = some merchantId → other = group
  secret : ∃ value, value ≠ "" ∧ group.sportsSecret = some value ∧
    crypto.decrypt value = .ok sportsSecret

variable {merchantId sportsSecret userId username text : String} {claims : Claims}

theorem credentials_alone (serves : Serves crypto group merchantId sportsSecret db) :
    (getMerchantCredentials jwt crypto merchantId).solo ((authMachine jwt).perform Fault.none)
        ⟨db, cache, clock, [], [], [], []⟩ =
      (.ok (some ⟨groupContext group, sportsSecret⟩, clock),
        ⟨db, cache, clock, [], [⟨group, clock⟩], [], []⟩) := by
  obtain ⟨value, solid, column, decrypted⟩ := serves.secret
  have found : findMerchant merchantId db = some group := by
    refine find?_of_unique serves.stored (by simp [serves.merchant, serves.active])
      fun other stored same => ?_
    exact serves.unique other stored (of_decide_eq_true (Bool.and_eq_true_iff.mp same).1)
  have kept : nonEmpty group.sportsSecret = some value := by
    simp [nonEmpty, column, solid]
  have answer : AuthCall.run (.findCredentials merchantId)
      (⟨db, cache, clock, [], [], [], []⟩ : State jwt) =
        (.ok (some group, clock), ⟨db, cache, clock, [], [⟨group, clock⟩], [], []⟩) := by
    rw [AuthCall.run, found]
    rfl
  have looked : (own (.findCredentials merchantId)).solo ((authMachine jwt).perform Fault.none)
      (⟨db, cache, clock, [], [], [], []⟩ : State jwt) =
        (.ok (some group, clock), ⟨db, cache, clock, [], [⟨group, clock⟩], [], []⟩) := answer
  rw [getMerchantCredentials, Program.solo_bind_ok looked]
  simp only [kept, decrypted]
  rfl

/-- What the operator's token says. -/
def invited (userId username merchantId sportsSecret : String) (group : CasinoGroup)
    (claims : Claims) (clock : Time) : VerifiedLaunch :=
  ⟨⟨userId, username, merchantId⟩, ⟨groupContext group, sportsSecret⟩, claims, clock⟩

theorem verify_alone (serves : Serves crypto group merchantId sportsSecret db)
    (invites : Invites config sportsSecret merchantId clock claims userId username)
    (signed : jwt.parse text = some (jwt.sign sportsSecret (.claims claims))) :
    (verify jwt config crypto text).solo ((authMachine jwt).perform Fault.none)
        ⟨db, cache, clock, [], [], [], []⟩ =
      (.ok (invited userId username merchantId sportsSecret group claims clock),
        ⟨db, cache, clock, [], [⟨group, clock⟩], [], []⟩) := by
  have decoded : decodedMerchantId jwt text = some merchantId := by
    simp [decodedMerchantId, signed, jwt.decode_sign, invites.merchant, nonEmpty, invites.named]
  have within : jwt.verifyWithin config.OPERATOR_JWT_CLOCK_SKEW sportsSecret
      (jwt.sign sportsSecret (.claims claims)) (seconds clock) = some (.claims claims) :=
    Format.verifyWithin_eq_some.mpr ⟨rfl, invites.unexpired, invites.begun⟩
  have accepted : verified jwt config text merchantId ⟨groupContext group, sportsSecret⟩ clock =
      .ok (invited userId username merchantId sportsSecret group claims clock) := by
    rw [verified, signed, Option.bind_some, within]
    simp only [invites.userId, invites.username]
    rfl
  unfold verify
  rw [decoded, Program.solo_bind_ok (credentials_alone serves)]
  dsimp only
  rw [accepted]
  rfl

/-- With no fault, a launch hands out the session of the player that the operator's token names. -/
theorem launch_alone (serves : Serves crypto group merchantId sportsSecret db)
    (invites : Invites config sportsSecret merchantId clock claims userId username)
    (given : text ≠ "") (signed : jwt.parse text = some (jwt.sign sportsSecret (.claims claims)))
    {session : SessionService.IssuedSession jwt.toScheme}
    (minted : SessionService.mint jwt.toScheme config.toTokenConfig
      ⟨userId, username, group.id, group.defaultCurrency⟩ (seconds clock) = some session) :
    ∃ after, (launch jwt config crypto (some text)).solo ((authMachine jwt).perform Fault.none)
        ⟨db, cache, clock, [], [], [], []⟩ =
          (.ok ⟨session.sessionToken, session.expiresIn,
            ⟨userId, username, group.id, group.defaultCurrency⟩, group.slug⟩, after) ∧
      after.db = db ∧ after.cache = cache ∧ after.clock = clock := by
  have arrived : (own (.arrive (some text))).solo ((authMachine jwt).perform Fault.none)
      (⟨db, cache, clock, [], [], [], []⟩ : State jwt) =
        (.ok clock, ⟨db, cache, clock, [], [], [], []⟩) := rfl
  have solid : nonEmpty (some text) = some text := by
    simp [nonEmpty, given]
  unfold launch
  rw [Program.solo_bind_ok arrived, solid]
  dsimp only
  rw [Program.solo_bind_ok (verify_alone serves invites signed)]
  have own : (invited userId username merchantId sportsSecret group claims clock).user =
      ⟨userId, username, group.id, group.defaultCurrency⟩ := rfl
  have time : (invited userId username merchantId sportsSecret group claims clock).time = clock :=
    rfl
  rw [own, time, minted]
  exact ⟨_, rfl, rfl, rfl, rfl⟩

theorem bearerToken_bearer (lowers : runtime.LowersAscii) {bearer : String} (given : bearer ≠ "")
    (solid : ' ' ∉ bearer.toList) :
    bearerToken runtime { authorization := some ("Bearer " ++ bearer) } = some bearer := by
  have header : nonEmpty (some ("Bearer " ++ bearer)) = some ("Bearer " ++ bearer) := by
    simp [nonEmpty]
  have split : ("Bearer " ++ bearer).toList.splitOn ' ' = ["Bearer".toList, bearer.toList] := by
    have parts : ("Bearer " ++ bearer).toList = "Bearer".toList ++ ' ' :: bearer.toList := by
      simp [String.toList_append]
    rw [parts, List.splitOn_append_cons_self_of_not_mem (by decide +kernel),
      List.splitOn_eq_singleton solid]
  have scheme : runtime.toLowerCase "Bearer" = "bearer" := by
    have plain : ("Bearer".toList.all fun symbol => decide (symbol.toNat < 128)) = true := by
      decide +kernel
    rw [lowers "Bearer" fun symbol member =>
      of_decide_eq_true (List.all_eq_true.mp plain symbol member)]
    decide +kernel
  rw [bearerToken, header]
  simp only [split, String.ofList_toList, scheme, if_true]
  simp [nonEmpty, given]

/-- With no fault an active tenant is found under its id. -/
theorem resolveById_alone {state : State jwt}
    (filed : ∀ entry ∈ state.cache, Filed entry.key entry.group)
    (stored : group ∈ state.db.catalog.casinoGroups) (active : group.active = true) :
    ∃ context after, (tenants (resolveActiveById group.id)).solo
        ((authMachine jwt).perform Fault.none) state = (.ok (some context), after) ∧
      context.id = group.id := by
  have looked : (tenants (readCache (CACHE_ID_PREFIX ++ group.id)) : AuthService jwt _).solo
      ((authMachine jwt).perform Fault.none) state =
        (.ok (((state.cache.get? (CACHE_ID_PREFIX ++ group.id)).filter fun entry =>
          state.clock ≤ entry.expiresAt).map CacheEntry.group), state) := by
    rw [readCache, tenants_handle]
    exact Program.solo_handle_ok rfl _
  rw [resolveActiveById, resolveActive, tenants_bind, Program.solo_bind_ok looked]
  cases cached : ((state.cache.get? (CACHE_ID_PREFIX ++ group.id)).filter fun entry =>
      state.clock ≤ entry.expiresAt).map CacheEntry.group with
  | some context =>
      obtain ⟨entry, live, rfl⟩ := Option.map_eq_some_iff.mp cached
      obtain ⟨held, named⟩ := Table.get?_eq_some_iff.mp (Option.filter_eq_some_iff.mp live).1
      exact ⟨entry.group, state, rfl, filed entry held group.id named⟩
  | none =>
      have found : findActive (fun other => other.id = group.id) state.db =
          some (groupContext group) := by
        refine congrArg (Option.map groupContext) (find?_of_unique stored (by simp [active]) ?_)
        intro other member same
        have own := of_decide_eq_true (Bool.and_eq_true_iff.mp same).1
        exact Table.eq_of_key member stored own
      have searched : (tenants (CasinoGroups.prisma
          (read (findActive fun other => other.id = group.id))) : AuthService jwt _).solo
            ((authMachine jwt).perform Fault.none) state =
              (.ok (some (groupContext group)), state) := by
        rw [← found]
        rfl
      have written : ∃ after, (tenants (writeCache (CACHE_ID_PREFIX ++ group.id)
          (groupContext group)) : AuthService jwt Unit).solo
            ((authMachine jwt).perform Fault.none) state = (.ok (), after) := by
        rw [writeCache, tenants_handle]
        exact ⟨_, Program.solo_handle_ok rfl _⟩
      obtain ⟨after, written⟩ := written
      dsimp only
      rw [tenants_bind, Program.solo_bind_ok searched]
      dsimp only
      rw [tenants_bind, Program.solo_bind_ok written]
      exact ⟨groupContext group, after, rfl, rfl⟩

/-- With no fault, a session lets its player in until it ends. -/
theorem visit_alone (state : State jwt) (lowers : runtime.LowersAscii)
    (filed : ∀ entry ∈ state.cache, Filed entry.key entry.group)
    (stored : group ∈ state.db.catalog.casinoGroups) (active : group.active = true)
    {user : UserContext} (own : user.casinoGroupId = group.id) {issued lifetime : ℤ}
    {session : SessionService.IssuedSession jwt.toScheme}
    (minted : SessionService.mint jwt.toScheme config.toTokenConfig user issued = some session)
    (lasts : jwt.seconds config.SESSION_TTL = some lifetime)
    (intime : seconds state.clock < issued + lifetime) {bearer : String} (given : bearer ≠ "")
    (solid : ' ' ∉ bearer.toList) (sent : jwt.parse bearer = some session.sessionToken)
    (needsUser : Bool) :
    ∃ context after, (visit jwt config runtime
        { authorization := some ("Bearer " ++ bearer) } needsUser).solo
          ((authMachine jwt).perform Fault.none) state =
            (.ok ⟨some user, context, state.clock⟩, after) ∧ context.id = user.casinoGroupId := by
  have token := bearerToken_bearer lowers given solid
  have verified : PlayerAuthGuard.session jwt config bearer state.clock = .ok user := by
    rw [PlayerAuthGuard.session, sent]
    exact verify_mint minted lasts intime
  have arrived : (Auth.own (.arrive (some bearer))).solo ((authMachine jwt).perform Fault.none)
      state = (.ok state.clock, state) := rfl
  obtain ⟨context, after, resolved, same⟩ := resolveById_alone filed stored active
  rw [← own] at resolved same
  have admitted : (canActivate jwt config runtime
      { authorization := some ("Bearer " ++ bearer) }).solo ((authMachine jwt).perform Fault.none)
        state = (.ok ⟨some user, context, state.clock⟩, after) := by
    rw [canActivate, token, Program.solo_bind_ok arrived]
    dsimp only
    rw [verified, checked, Program.bind_ok, Program.solo_bind_ok resolved]
    rfl
  rw [visit, Program.solo_bind_ok admitted]
  cases needsUser with
  | false => exact ⟨context, _, rfl, same⟩
  | true => exact ⟨context, _, rfl, same⟩

end Player

section Merchant

open StaffAuth CryptoService

variable {jwt : Format} {config : AuthConfig} {crypto : CryptoService} {base : Crypto}
  {runtime : Text.Runtime} {dto : CreateMerchantDto} {staff : StaffContext}
  {generated : Generated} {merchant : CreatedMerchant} {db after : Database}

/-- The row of a new merchant serves the secret that was returned, which it holds encrypted. -/
theorem merchant_serves
    (created : (createMerchant runtime (crypto.crypto base) dto staff generated).eval db =
      (.ok merchant, after))
    (drawn : (Bytes.Base64.decode generated.vector).length = IV_LENGTH) {merchantId : String}
    (named : merchant.merchantId = some merchantId) :
    ∃ group, Serves crypto group merchantId merchant.sportsSecret after ∧ group.id = merchant.id ∧
      group.slug = merchant.slug ∧ group.defaultCurrency = merchant.defaultCurrency ∧
      ∃ value, group.sportsSecret = some value ∧ isEncrypted value = true := by
  obtain ⟨onboarded, id, slug, merchantOf, currency, active, secret, _⟩ :=
    createMerchant_onboards created
  have merchantOf' := merchantOf.symm.trans named
  have sealed : isEncrypted ((crypto.crypto base).encrypt generated.vector merchant.sportsSecret) =
      true := encrypt_isEncrypted merchant.sportsSecret
  refine ⟨_, ⟨onboarded.stored, active, merchantOf', fun other stored same => ?_, _, ?_, secret, ?_⟩,
    id.symm, slug.symm, currency.symm, _, secret, sealed⟩
  · exact onboarded.merchant other stored (same.trans merchantOf'.symm)
  · intro empty
    rw [empty] at sealed
    cases sealed
  · exact decrypt_encrypt drawn merchant.sportsSecret

/-- A new merchant's database holds its secret in an envelope only; the password that was
returned, and no other, opens the back office for the tenant; and a launch token signed under
the secret that was returned gets its player in, for as long as the session lasts. -/
theorem merchant_onboarded (lowers : runtime.LowersAscii)
    (created : (createMerchant runtime (crypto.crypto base) dto staff generated).eval db =
      (.ok merchant, after))
    (drawn : (Bytes.Base64.decode generated.vector).length = IV_LENGTH) {merchantId : String}
    (named : merchant.merchantId = some merchantId) {lifetime : ℤ}
    (lasts : jwt.seconds config.SESSION_TTL = some lifetime) :
    (∃ group ∈ after.catalog.casinoGroups, group.id = merchant.id ∧
      ∃ value, group.sportsSecret = some value ∧ isEncrypted value = true) ∧
    (∀ refreshTtl lasts refreshToken clock candidate, parseDurationMs refreshTtl = .ok lasts →
      Text.trim (runtime.toLowerCase merchant.operatorAdmin.email) = merchant.operatorAdmin.email →
      (∀ session ∈ after.staff.sessions.table,
        session.refreshTokenHash ≠ base.sha256 refreshToken) →
      (((login runtime (crypto.crypto base) refreshTtl merchant.operatorAdmin.email candidate
          refreshToken).solo (staffMachine.perform Fault.none) ⟨after, clock, [], []⟩).1).map
        (fun result => (result.casinoGroupId, result.roles)) =
          if candidate = merchant.operatorAdmin.password then .ok (some merchant.id, [.operatorAdmin])
          else .error (.unauthorized "Invalid credentials")) ∧
    ∀ claims userId username text cache clock,
      Invites config merchant.sportsSecret merchantId clock claims userId username → text ≠ "" →
      jwt.parse text = some (jwt.sign merchant.sportsSecret (.claims claims)) →
      (∀ entry ∈ cache, Filed entry.key entry.group) →
      ∃ response last, (launch jwt config crypto (some text)).solo
          ((authMachine jwt).perform Fault.none) ⟨after, cache, clock, [], [], [], []⟩ =
            (.ok response, last) ∧
        response.user = ⟨userId, username, merchant.id, merchant.defaultCurrency⟩ ∧
        response.casinoGroupSlug = merchant.slug ∧
        ∀ passed bearer needsUser, seconds (clock + passed) < seconds clock + lifetime →
          bearer ≠ "" → ' ' ∉ bearer.toList → jwt.parse bearer = some response.sessionToken →
          ∃ context final, (visit jwt config runtime
              { authorization := some ("Bearer " ++ bearer) } needsUser).solo
                ((authMachine jwt).perform Fault.none) { last with clock := clock + passed } =
                  (.ok ⟨some response.user, context, clock + passed⟩, final) ∧
            context.id = merchant.id := by
  obtain ⟨group, serves, id, slug, currency, encrypted⟩ := merchant_serves created drawn named
  obtain ⟨onboarded, _, _, _, _, _, _, email, active, own, roles, hashed⟩ :=
    createMerchant_onboards created
  refine ⟨⟨group, serves.stored, id, encrypted⟩, ?_, ?_⟩
  · intro refreshTtl lasts refreshToken clock candidate configured settled fresh
    rw [email] at settled ⊢
    rw [login_alone onboarded.employed onboarded.email active hashed settled fresh configured]
    split
    · rw [← own, ← roles]
      rfl
    · rfl
  · intro claims userId username text cache clock invites given signed filed
    obtain ⟨session, minted⟩ : ∃ session, SessionService.mint jwt.toScheme config.toTokenConfig
        ⟨userId, username, group.id, group.defaultCurrency⟩ (seconds clock) = some session := by
      simp [SessionService.mint, Scheme.issue, lasts]
    obtain ⟨last, handed, stored, kept, _⟩ := launch_alone serves invites given signed minted
    refine ⟨_, last, handed, by rw [id, currency], slug, ?_⟩
    intro passed bearer needsUser intime present solid sent
    have sound : ∀ entry ∈ cache, Filed entry.key entry.group := filed
    rw [← kept] at sound
    obtain ⟨context, final, entered, same⟩ := visit_alone { last with clock := clock + passed }
      lowers sound (stored ▸ serves.stored) serves.active rfl minted lasts intime present solid sent
      needsUser
    exact ⟨context, final, entered, same.trans id⟩

end Merchant

section Sample

open StaffAuth Product

def luckyDto : CreateMerchantDto := { luckystar with merchantId := some "acme-merchant" }

/-- The vector is one of zeros. -/
def luckyKeys : Generated := { luckystarKeys with vector := "AAAAAAAAAAAAAAAA" }

def lucky : Except Failure CreatedMerchant × Database :=
  (createMerchant Text.asciiRuntime (keyedCrypto.crypto plainCrypto) luckyDto
    ⟨"admin", none, [.superAdmin]⟩ luckyKeys).eval Ingestion.freshDatabase

theorem lucky_onboarded : ∃ merchant after, lucky = (.ok merchant, after) ∧
    (((login Text.asciiRuntime (keyedCrypto.crypto plainCrypto) "7d" merchant.operatorAdmin.email
        "password" "random").solo (staffMachine.perform Fault.none) ⟨after, 0, [], []⟩).1).map
      (fun result => (result.casinoGroupId, result.roles)) = .ok (some "lucky", [.operatorAdmin]) ∧
    ∃ response last, (launch openFormat tokenConfig keyedCrypto (some "launch")).solo
        ((authMachine openFormat).perform Fault.none) ⟨after, .empty, 2999, [], [], [], []⟩ =
          (.ok response, last) ∧ response.user = ⟨"ann", "Ann", "lucky", "USD"⟩ := by
  have returned : lucky.1.toOption.map (fun merchant => (merchant.id, merchant.merchantId,
      merchant.sportsSecret, merchant.defaultCurrency, merchant.operatorAdmin.email,
      merchant.operatorAdmin.password)) =
    some ("lucky", some "acme-merchant", "secret", "USD", "admin@luckystar.merchant.local",
      "password") := by decide +kernel
  have free : lucky.2.staff.sessions.table.rows.length = 0 := by decide +kernel
  obtain ⟨outcome, after, onboarded⟩ : ∃ outcome after, lucky = (outcome, after) := ⟨_, _, rfl⟩
  rw [onboarded] at returned free
  cases outcome with
  | error failure => cases returned
  | ok merchant =>
      have fields := Option.some.inj returned
      simp only [Prod.mk.injEq] at fields
      obtain ⟨id, named, secret, currency, email, password⟩ := fields
      have lasts : openFormat.seconds tokenConfig.SESSION_TTL = some 1800 := rfl
      obtain ⟨_, operator, player⟩ := merchant_onboarded Text.asciiRuntime_lowersAscii onboarded
        (by decide +kernel) named lasts
      refine ⟨merchant, after, onboarded, ?_, ?_⟩
      · have configured : parseDurationMs "7d" = .ok 604800000 := by
          unfold parseDurationMs
          decide +kernel
        have settled : Text.trim (Text.asciiRuntime.toLowerCase merchant.operatorAdmin.email) =
            merchant.operatorAdmin.email := by
          rw [email]
          decide +kernel
        have fresh : ∀ session ∈ after.staff.sessions.table,
            session.refreshTokenHash ≠ plainCrypto.sha256 "random" := by
          have empty : after.staff.sessions.table.rows = [] := List.eq_nil_of_length_eq_zero free
          intro session stored
          rw [← Table.mem_rows, empty] at stored
          cases stored
        have opened := operator "7d" 604800000 "random" 0 "password" configured settled
          fresh
        rwa [password, if_pos rfl, id] at opened
      · have invites : Invites tokenConfig merchant.sportsSecret "acme-merchant" 2999 annClaims "ann"
            "Ann" := ⟨by decide, rfl, rfl, rfl, by decide, by decide⟩
        have signed : openFormat.parse "launch" =
            some (openFormat.sign merchant.sportsSecret (.claims annClaims)) := by
          rw [secret]
          rfl
        obtain ⟨response, last, handed, user, _⟩ := player annClaims "ann" "Ann" "launch" .empty 2999
          invites (by decide) signed (by simp)
        exact ⟨response, last, handed, by rw [user, id, currency]⟩

end Sample

end SportsBetting.Auth
