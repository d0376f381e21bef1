import SportsBetting.Async.RelyGuarantee
import SportsBetting.Auth.Launch

/-!
# Whom a player's request is for

A request is let in for a player only in the lifetime of a session that came out of a
launch, whose token was signed for that player under the secret of the player's tenant.
-/

namespace SportsBetting.Auth

open Async Jwt CasinoGroups

open Realtime (UserContext)

variable {jwt : Format} {config : AuthConfig} {crypto : CryptoService} {runtime : Text.Runtime}

section Evidence

/-- The row of the tenant, as it was read for the launch. -/
structure Reading.Backs (crypto : CryptoService) (launch : Launch jwt) (reading : Reading) :
    Prop where
  time : reading.time = launch.time
  active : reading.group.active = true
  group : reading.group.id = launch.user.casinoGroupId
  currency : reading.group.defaultCurrency = launch.user.currency
  merchant : ∃ merchantId, reading.group.merchantId = some merchantId ∧
    launch.claims.lookup "merchantId" = some (.text merchantId)
  secret : ∃ stored, reading.group.sportsSecret = some stored ∧
    crypto.decrypt stored = .ok launch.sportsSecret

/-- Somebody has signed the claims, to a token that the secret verifies. -/
def Signed (sportsSecret : String) (claims : Claims) (state : State jwt) : Prop :=
  ∃ signature ∈ state.signed, signature.2 = .claims claims ∧
    jwt.sign signature.1 signature.2 = jwt.sign sportsSecret (.claims claims)

structure Launch.Genuine (config : AuthConfig) (crypto : CryptoService) (launch : Launch jwt)
    (state : State jwt) : Prop where
  past : launch.time ≤ state.clock
  signed : Signed launch.sportsSecret launch.claims state
  unexpired : (Payload.claims launch.claims).unexpired
    (seconds launch.time - config.OPERATOR_JWT_CLOCK_SKEW) = true
  begun : (Payload.claims launch.claims).begun
    (seconds launch.time + config.OPERATOR_JWT_CLOCK_SKEW) = true
  userId : launch.claims.lookup "userId" = some (.text launch.user.userId)
  username : launch.claims.lookup "username" = some (.text launch.user.username)
  tenant : ∃ reading ∈ state.readings, reading.Backs crypto launch
  minted : ∃ session, SessionService.mint jwt.toScheme config.toTokenConfig launch.user
    (seconds launch.time) = some session ∧ session.sessionToken = launch.session

/-- The launch is for the player, and its session has not ended. -/
structure Launch.Opens (config : AuthConfig) (user : UserContext) (time : Time)
    (launch : Launch jwt) : Prop where
  user : launch.user = user
  past : launch.time ≤ time
  intime : ∃ lifetime, jwt.seconds config.SESSION_TTL = some lifetime ∧
    seconds time < seconds launch.time + lifetime

/-- A visit without a player needs the fallback. -/
def Visit.Admitted (config : AuthConfig) (visit : Visit) (state : State jwt) : Prop :=
  match visit.user with
  | none => config.AUTH_ALLOW_HEADER_FALLBACK = true
  | some user => visit.group.id = user.casinoGroupId ∧
      ∃ launch ∈ state.launches, launch.Opens config user visit.time

/-- The key of an id is that of the tenant. -/
def Filed (key : String) (group : CasinoGroupContext) : Prop :=
  ∀ id, key = CACHE_ID_PREFIX ++ id → group.id = id

/-- No token of the secret is one of the service's own sessions. -/
def Apart (jwt : Format) (config : AuthConfig) (secret : String) (payload : Payload) : Prop :=
  ∀ other, jwt.sign secret payload ≠ jwt.sign config.SESSION_JWT_SECRET other

structure Sound (config : AuthConfig) (crypto : CryptoService) (state : State jwt) : Prop where
  filed : ∀ entry ∈ state.cache, Filed entry.key entry.group
  apart : ∀ signature ∈ state.signed, Apart jwt config signature.1 signature.2
  launches : ∀ launch ∈ state.launches, launch.Genuine config crypto state
  visits : ∀ visit ∈ state.visits, visit.Admitted config state

/-- What is on record stays on record. -/
structure Grows (before after : State jwt) : Prop where
  clock : before.clock ≤ after.clock
  signed : before.signed ⊆ after.signed
  readings : before.readings ⊆ after.readings
  launches : before.launches ⊆ after.launches

variable {before after : State jwt}

theorem Grows.refl (state : State jwt) : Grows state state :=
  ⟨le_rfl, fun _ => id, fun _ => id, fun _ => id⟩

theorem Grows.trans {first second third : State jwt} (one : Grows first second)
    (two : Grows second third) : Grows first third :=
  ⟨one.clock.trans two.clock, fun _ member => two.signed (one.signed member),
    fun _ member => two.readings (one.readings member),
    fun _ member => two.launches (one.launches member)⟩

theorem Signed.grows {sportsSecret : String} {claims : Claims} (grows : Grows before after)
    (signed : Signed sportsSecret claims before) : Signed sportsSecret claims after := by
  obtain ⟨signature, member, meant, same⟩ := signed
  exact ⟨signature, grows.signed member, meant, same⟩

theorem Launch.Genuine.grows {launch : Launch jwt} (grows : Grows before after)
    (genuine : launch.Genuine config crypto before) : launch.Genuine config crypto after := by
  obtain ⟨reading, member, backs⟩ := genuine.tenant
  exact { genuine with
    past := genuine.past.trans grows.clock
    signed := genuine.signed.grows grows
    tenant := ⟨reading, grows.readings member, backs⟩ }

theorem Visit.Admitted.grows {visit : Visit} (grows : Grows before after)
    (admitted : visit.Admitted config before) : visit.Admitted config after := by
  unfold Visit.Admitted at admitted ⊢
  split
  · next anonymous => simpa only [anonymous] using admitted
  · next user known =>
      simp only [known] at admitted
      obtain ⟨group, launch, member, opens⟩ := admitted
      exact ⟨group, launch, grows.launches member, opens⟩

end Evidence

section Tokens

open SessionService Scheme

/-- A session that was handed out is for the player it was minted for, until it ends. -/
theorem verify_minted {user other : UserContext} {issued now : ℤ}
    {session : IssuedSession jwt.toScheme}
    (minted : mint jwt.toScheme config.toTokenConfig user issued = some session)
    (verified : SessionService.verify jwt.toScheme config.toTokenConfig session.sessionToken now =
      .ok other) :
    user = other ∧ ∃ lifetime, jwt.seconds config.SESSION_TTL = some lifetime ∧
      now < issued + lifetime := by
  obtain ⟨token, signed, rfl⟩ := Option.map_eq_some_iff.mp minted
  unfold SessionService.verify at verified
  cases read : jwt.verify config.SESSION_JWT_SECRET token now with
  | none =>
      rw [read] at verified
      cases verified
  | some payload =>
      obtain ⟨lifetime, lasts, rfl⟩ := verify_of_issue signed read
      rw [read] at verified
      refine ⟨Except.ok.inj verified, lifetime, lasts, ?_⟩
      exact of_decide_eq_true (jwt.verify_iff.mp read).2

/-- The claims of a session name no merchant. -/
theorem session_nameless {user : UserContext} {issued : ℤ} {session : IssuedSession jwt.toScheme}
    (minted : mint jwt.toScheme config.toTokenConfig user issued = some session)
    {secret : String} {claims : Claims}
    (same : session.sessionToken = jwt.sign secret (.claims claims)) :
    claims.lookup "merchantId" = none := by
  obtain ⟨token, signed, rfl⟩ := Option.map_eq_some_iff.mp minted
  obtain ⟨lifetime, _, rfl⟩ := Option.map_eq_some_iff.mp signed
  obtain rfl := Payload.claims.inj (jwt.payload_eq same)
  rfl

end Tokens

section Contract

variable {Reply : Type}

def AuthCall.Arrives (state : State jwt) {Reply : Type} : AuthCall jwt Reply → Prop
  | .arrive text => ∀ token ∈ text.bind jwt.parse, token ∈ state.tokens
  | _ => True

/-- Whoever sends a token has it from where it was made. -/
def Arrives (state : State jwt) {Reply : Type} :
    Joint (AuthCall jwt) (Query Database Failure) Reply → Prop
  | .own call => call.Arrives state
  | .other _ => True

def arriving : Guard (authMachine jwt) := fun config _ request => Arrives config.state request

def FiledCall {Reply : Type} : CacheCall Reply → Prop
  | .set key group => Filed key group
  | _ => True

def AuthCall.Proper (config : AuthConfig) (crypto : CryptoService) (state : State jwt)
    {Reply : Type} : AuthCall jwt Reply → Prop
  | .cache call => FiledCall call
  | .sign secret payload => Apart jwt config secret payload
  | .respond launch => launch.Genuine config crypto state
  | .enter visit => visit.Admitted config state
  | _ => True

def Proper (config : AuthConfig) (crypto : CryptoService) (state : State jwt) {Reply : Type} :
    Joint (AuthCall jwt) (Query Database Failure) Reply → Prop
  | .own call => call.Proper config crypto state
  | .other _ => True

variable (jwt) in
def authenticating (config : AuthConfig) (crypto : CryptoService) : Contract (authMachine jwt) where
  invariant := Sound config crypto
  rely _ before after := Grows before after
  proper request state := Proper config crypto state request
  admits state _ request := Arrives state request

theorem grows_perform (fault : Fault)
    (request : Joint (AuthCall jwt) (Query Database Failure) Reply) (state : State jwt) :
    Grows state ((authMachine jwt).perform fault request state).2 := by
  rcases Server.perform_cases (server jwt) fault request state with same | ⟨_, same⟩
  · rw [same]
    exact .refl state
  · rw [same]
    cases request with
    | other query => exact ⟨le_rfl, fun _ => id, fun _ => id, fun _ => id⟩
    | own call =>
        cases call with
        | cache call => exact ⟨le_rfl, fun _ => id, fun _ => id, fun _ => id⟩
        | arrive token => exact .refl state
        | findCredentials merchantId =>
            exact ⟨le_rfl, fun _ => id, List.subset_append_left _ _, fun _ => id⟩
        | sign secret payload =>
            exact ⟨le_rfl, List.subset_append_left _ _, fun _ => id, fun _ => id⟩
        | respond launch =>
            exact ⟨le_rfl, fun _ => id, fun _ => id, List.subset_append_left _ _⟩
        | enter visit => exact ⟨le_rfl, fun _ => id, fun _ => id, fun _ => id⟩

/-- What was found sound stays so; what a call adds is for the caller to show. -/
theorem Sound.extend {state after : State jwt} (sound : Sound config crypto state)
    (grows : Grows state after) (filed : ∀ entry ∈ after.cache, Filed entry.key entry.group)
    (signed : ∀ signature ∈ after.signed, signature ∈ state.signed ∨
      Apart jwt config signature.1 signature.2)
    (launches : ∀ launch ∈ after.launches, launch ∈ state.launches ∨
      launch.Genuine config crypto state)
    (visits : ∀ visit ∈ after.visits, visit ∈ state.visits ∨ visit.Admitted config state) :
    Sound config crypto after where
  filed := filed
  apart signature member := (signed signature member).elim (sound.apart signature) id
  launches launch member :=
    ((launches launch member).elim (sound.launches launch) id).grows grows
  visits visit member := ((visits visit member).elim (sound.visits visit) id).grows grows

theorem Proper.sound {request : Joint (AuthCall jwt) (Query Database Failure) Reply}
    {state : State jwt} (proper : Proper config crypto state request) (fault : Fault)
    (sound : Sound config crypto state) :
    Sound config crypto ((authMachine jwt).perform fault request state).2 := by
  have grows := grows_perform fault request state
  rcases Server.perform_cases (server jwt) fault request state with same | ⟨_, same⟩
  · rwa [same]
  · rw [same] at grows ⊢
    have added : ∀ {α : Type} {items : List α} {item new : α}, new ∈ items ++ [item] →
        new ∈ items ∨ new = item := by
      intro α items item new member
      simpa using member
    cases request with
    | other query =>
        exact sound.extend grows sound.filed (fun _ => .inl) (fun _ => .inl) fun _ => .inl
    | own call =>
        cases call with
        | cache call =>
            refine sound.extend grows (fun entry stored => ?_) (fun _ => .inl) (fun _ => .inl)
              fun _ => .inl
            cases call with
            | get key => exact sound.filed entry stored
            | set key group =>
                rcases Table.mem_put.mp stored with rfl | ⟨old, _⟩
                · exact proper
                · exact sound.filed entry old
            | del group => exact sound.filed entry (Table.mem_deleteWhere.mp stored).1
        | arrive token => exact sound
        | findCredentials merchantId =>
            exact sound.extend grows sound.filed (fun _ => .inl) (fun _ => .inl) fun _ => .inl
        | sign secret payload =>
            refine sound.extend grows sound.filed (fun signature member => ?_) (fun _ => .inl)
              fun _ => .inl
            rcases added member with old | rfl
            · exact .inl old
            · exact .inr proper
        | respond launch =>
            refine sound.extend grows sound.filed (fun _ => .inl) (fun new member => ?_)
              fun _ => .inl
            rcases added member with old | rfl
            · exact .inl old
            · exact .inr proper
        | enter visit =>
            refine sound.extend grows sound.filed (fun _ => .inl) (fun _ => .inl)
              fun new member => ?_
            rcases added member with old | rfl
            · exact .inl old
            · exact .inr proper

/-- Time passes. -/
theorem grows_occur (passed : ℕ) (state : State jwt) :
    Grows state ((authMachine jwt).occur passed state) :=
  ⟨Int.le_add_of_nonneg_right (Int.natCast_nonneg passed), fun _ => id, fun _ => id, fun _ => id⟩

theorem authenticating_stable : (authenticating jwt config crypto).Stable where
  refl _ := Grows.refl
  trans _ _ _ _ := Grows.trans
  keeps _ fault _ sound proper _ := proper.sound fault sound
  sound passed state sound :=
    sound.extend (grows_occur passed state) sound.filed (fun _ => .inl) (fun _ => .inl)
      fun _ => .inl
  event _ passed state _ := grows_occur passed state

theorem authenticating_protects :
    (authenticating jwt config crypto).Protects arriving :=
  Contract.Protects.of_proper fun request fault state _ _ _ _ _ => grows_perform fault request state

/-- Facts on record last. -/
theorem lasting_of_grows {fact : State jwt → Prop}
    (grows : ∀ {before after}, Grows before after → fact before → fact after) :
    (authenticating jwt config crypto).Lasting fact where
  waits _ _ _ waited := grows waited
  calls request fault state _ := grows (grows_perform fault request state)

end Contract

section Arrival

open SessionService

/-- What is known of a request that came in with the token. -/
structure Arrived (config : AuthConfig) (text : Option String) (time : Time) (state : State jwt) :
    Prop where
  session : ∀ token ∈ text.bind jwt.parse, ∀ user,
    SessionService.verify jwt.toScheme config.toTokenConfig token (seconds time) = .ok user →
      ∃ launch ∈ state.launches, launch.Opens config user time
  launch : ∀ token ∈ text.bind jwt.parse, ∀ secret claims,
    token = jwt.sign secret (.claims claims) → claims.lookup "merchantId" ≠ none →
      Signed secret claims state

variable {text : Option String} {time : Time} {state : State jwt}

theorem Arrived.grows {before after : State jwt} (grows : Grows before after)
    (arrived : Arrived config text time before) : Arrived config text time after where
  session token parsed user verified := by
    obtain ⟨launch, member, opens⟩ := arrived.session token parsed user verified
    exact ⟨launch, grows.launches member, opens⟩
  launch token parsed secret claims same named :=
    (arrived.launch token parsed secret claims same named).grows grows

theorem signed_of_verify {token : jwt.Token} {now : ℤ} {user : UserContext}
    (verified : SessionService.verify jwt.toScheme config.toTokenConfig token now = .ok user) :
    ∃ payload, token = jwt.sign config.SESSION_JWT_SECRET payload := by
  unfold SessionService.verify at verified
  cases read : jwt.verify config.SESSION_JWT_SECRET token now with
  | none =>
      rw [read] at verified
      cases verified
  | some payload => exact ⟨payload, (jwt.verify_iff.mp read).1⟩

theorem Sound.arrived (sound : Sound config crypto state)
    (arrives : ∀ token ∈ text.bind jwt.parse, token ∈ state.tokens) :
    Arrived config text state.clock state where
  session token parsed user verified := by
    rcases List.mem_append.mp (arrives token parsed) with made | handed
    · obtain ⟨signature, member, rfl⟩ := List.mem_map.mp made
      obtain ⟨payload, same⟩ := signed_of_verify verified
      exact absurd same (sound.apart signature member payload)
    · obtain ⟨launch, member, rfl⟩ := List.mem_map.mp handed
      have genuine := sound.launches launch member
      obtain ⟨session, minted, same⟩ := genuine.minted
      rw [← same] at verified
      obtain ⟨own, intime⟩ := verify_minted minted verified
      exact ⟨launch, member, own, genuine.past, intime⟩
  launch token parsed secret claims same named := by
    rcases List.mem_append.mp (arrives token parsed) with made | handed
    · obtain ⟨signature, member, rfl⟩ := List.mem_map.mp made
      exact ⟨signature, member, jwt.payload_eq same, same⟩
    · obtain ⟨launch, member, rfl⟩ := List.mem_map.mp handed
      obtain ⟨session, minted, handed⟩ := (sound.launches launch member).minted
      exact absurd (session_nameless minted (handed.trans same)) named

theorem arrive_safe (text : Option String) (state : State jwt) :
    (authenticating jwt config crypto).Safe
      (fun outcome after => ∀ time, outcome = .ok time → Arrived config text time after)
      (own (.arrive text)) state := by
  refine Contract.Safe.call fun later _ sound => ⟨trivial, fun fault arrives time returned => ?_⟩
  have same := Server.perform_ok (server jwt) returned
  rw [same] at returned ⊢
  obtain rfl : later.clock = time := Except.ok.inj returned
  exact sound.arrived arrives

end Arrival

section Guard

@[simp] theorem tenants_bind {α β : Type} (service : CacheService α) (next : α → CacheService β) :
    (tenants (service >>= next) : AuthService jwt β) =
      tenants service >>= fun value => tenants (next value) := Program.mapCalls_bind service next

@[simp] theorem tenants_handle {α : Type} (service : CacheService α)
    (handler : Failure → CacheService α) : (tenants (service.handle handler) : AuthService jwt α) =
      (tenants service).handle fun failure => tenants (handler failure) :=
  Program.mapCalls_handle service handler

theorem slug_ne_id (slug id : String) : CACHE_PREFIX ++ slug ≠ CACHE_ID_PREFIX ++ id := by
  intro same
  have letters := congrArg (fun text : String => text.toList[13]?) same
  simp [CACHE_PREFIX, CACHE_ID_PREFIX, String.toList_append] at letters

theorem cached_safe (key : String) (state : State jwt) :
    (authenticating jwt config crypto).Safe
      (fun outcome _ => ∀ group, outcome = .ok (some group) → Filed key group)
      (tenants (readCache key)) state := by
  rw [readCache, tenants_handle]
  refine Contract.Safe.handle
    (fun outcome _ => ∀ group, outcome = .ok (some group) → Filed key group) ?_
    (fun _ _ filed => filed) fun _ _ _ _ never => by cases never
  refine Contract.Safe.call fun later _ sound => ⟨trivial, fun fault _ group returned => ?_⟩
  have same := Server.perform_ok (server jwt) returned
  rw [same] at returned
  obtain ⟨entry, live, rfl⟩ := Option.map_eq_some_iff.mp (Except.ok.inj returned)
  obtain ⟨stored, rfl⟩ := Table.get?_eq_some_iff.mp (Option.filter_eq_some_iff.mp live).1
  exact sound.filed entry stored

theorem written_safe {key : String} {group : CasinoGroupContext} (filed : Filed key group)
    (state : State jwt) :
    (authenticating jwt config crypto).Runs (tenants (writeCache key group)) state := by
  rw [writeCache, tenants_handle]
  exact Contract.Runs.handle (Contract.Safe.call fun _ _ _ => ⟨filed, fun _ _ => trivial⟩)
    fun _ _ => trivial

/-- A tenant that is found belongs to the key. -/
theorem resolve_safe {key : String} {chosen : CasinoGroup → Bool}
    (filed : ∀ group, chosen group = true → Filed key (groupContext group)) (state : State jwt) :
    (authenticating jwt config crypto).Safe
      (fun outcome _ => ∀ group, outcome = .ok (some group) → Filed key group)
      (tenants (resolveActive key chosen)) state := by
  rw [resolveActive, tenants_bind]
  refine Contract.Safe.bind (cached_safe key state) ?_ fun _ _ _ _ never => by cases never
  intro cached after known
  cases cached with
  | some group => exact known
  | none =>
      have found : (authenticating jwt config crypto).Safe
          (fun outcome _ => ∀ group, outcome = .ok (some group) → Filed key group)
          (tenants (CasinoGroups.prisma (read (findActive chosen)))) after := by
        refine Contract.Safe.call fun later _ _ => ⟨trivial, fun fault _ group returned => ?_⟩
        have same := Server.perform_ok (server jwt) returned
        rw [same] at returned
        obtain ⟨row, first, rfl⟩ := Option.map_eq_some_iff.mp (Except.ok.inj returned)
        have wanted := List.find?_some first
        exact filed row (Bool.and_eq_true_iff.mp wanted).1
      dsimp only
      rw [tenants_bind]
      refine Contract.Safe.bind found ?_ fun _ _ _ _ never => by cases never
      intro group later known
      cases group with
      | none => exact fun _ never => by cases never
      | some group =>
          dsimp only
          rw [tenants_bind]
          exact Contract.Safe.bind (written_safe (known group rfl) later) (fun _ _ _ => known)
            fun _ _ _ _ never => by cases never

theorem resolveById_safe (id : String) (state : State jwt) :
    (authenticating jwt config crypto).Safe
      (fun outcome _ => ∀ group, outcome = .ok (some group) → group.id = id)
      (tenants (resolveActiveById id)) state := by
  have filed : ∀ row : CasinoGroup, decide (row.id = id) = true →
      Filed (CACHE_ID_PREFIX ++ id) (groupContext row) := by
    intro row own other same
    have ids : id = other := by simpa [← String.toList_inj, String.toList_append] using same
    exact (of_decide_eq_true own).trans ids
  exact Contract.Safe.mono (fun _ _ known group same => known group same id rfl)
    (resolve_safe filed state)

theorem resolveBySlug_runs (slug : String) (state : State jwt) :
    (authenticating jwt config crypto).Runs (tenants (resolveActiveBySlug slug)) state :=
  (resolve_safe (fun _ _ id same => absurd same (slug_ne_id slug id)) state).runs

/-- The guard lets a request in only for the player of a session, or by the fallback. -/
theorem canActivate_safe (request : Request) (state : State jwt) :
    (authenticating jwt config crypto).Safe
      (fun outcome after => ∀ visit, outcome = .ok visit → visit.Admitted config after)
      (PlayerAuthGuard.canActivate jwt config runtime request) state := by
  unfold PlayerAuthGuard.canActivate
  generalize PlayerAuthGuard.bearerToken runtime request = text
  refine Contract.Safe.bind (arrive_safe text state) ?_ fun _ _ _ _ never => by cases never
  intro time after known
  have arrived := known time rfl
  cases text with
  | some text =>
      dsimp only
      cases verified : PlayerAuthGuard.session jwt config text time with
      | error failure => exact fun _ never => by cases never
      | ok user =>
          have held : ∃ launch ∈ after.launches, launch.Opens config user time := by
            unfold PlayerAuthGuard.session at verified
            cases parsed : jwt.parse text with
            | none =>
                rw [parsed] at verified
                cases verified
            | some token =>
                rw [parsed] at verified
                exact arrived.session token parsed user verified
          have lasting : (authenticating jwt config crypto).Lasting fun state : State jwt =>
              ∃ launch ∈ state.launches, launch.Opens config user time := by
            refine lasting_of_grows fun grows held => ?_
            obtain ⟨launch, member, opens⟩ := held
            exact ⟨launch, grows.launches member, opens⟩
          have found := Contract.Safe.lasting lasting held
            (resolveById_safe user.casinoGroupId after)
          rw [checked, Program.bind_ok]
          refine Contract.Safe.bind found ?_ fun _ _ _ _ never => by cases never
          intro group later known
          cases group with
          | none => exact fun _ never => by cases never
          | some group =>
              intro visit entered
              cases entered
              exact ⟨known.1 group rfl, known.2⟩
  | none =>
      dsimp only
      by_cases fallback : config.AUTH_ALLOW_HEADER_FALLBACK = true
      · rw [if_pos fallback]
        cases nonEmpty request.casinoGroup with
        | none => exact fun _ never => by cases never
        | some slug =>
            refine Contract.Safe.bind (resolveBySlug_runs slug after) ?_
              fun _ _ _ _ never => by cases never
            intro group later _
            cases group with
            | none => exact fun _ never => by cases never
            | some group =>
                intro visit entered
                cases entered
                exact fallback
      · rw [if_neg fallback]
        exact fun _ never => by cases never

theorem visit_runs (request : Request) (needsUser : Bool) (state : State jwt) :
    (authenticating jwt config crypto).Runs (visit jwt config runtime request needsUser) state := by
  refine Contract.Runs.bind (canActivate_safe request state) ?_
  intro visit after known
  have enters : ∀ {later}, Grows after later → visit.Admitted config later :=
    fun grows => (known visit rfl).grows grows
  have checks : ∀ result : Except Failure Unit, (authenticating jwt config crypto).Safe
      (fun _ later => Grows after later) (checked result) after := fun _ => .refl after
  refine Contract.Runs.bind (checks _) fun _ later grows => ?_
  exact Contract.Runs.seq (Contract.Safe.call fun _ waited _ =>
    ⟨enters (grows.trans waited), fun _ _ => trivial⟩) fun _ _ => trivial

end Guard

section Exchange

open OperatorTokenVerifier

/-- The row that was read for its secret. -/
structure Found (merchantId : String) (row : CasinoGroup) (time : Time) (state : State jwt) :
    Prop where
  read : ⟨row, time⟩ ∈ state.readings
  past : time ≤ state.clock
  active : row.active = true
  merchant : row.merchantId = some merchantId

theorem findCredentials_safe (merchantId : String) (state : State jwt) :
    (authenticating jwt config crypto).Safe
      (fun outcome after => ∀ row time, outcome = .ok (some row, time) →
        Found merchantId row time after)
      (own (.findCredentials merchantId)) state := by
  refine Contract.Safe.call fun later _ _ => ⟨trivial, fun fault _ row time returned => ?_⟩
  have same := Server.perform_ok (server jwt) returned
  rw [same] at returned ⊢
  obtain ⟨found, rfl⟩ := Prod.mk.inj (Except.ok.inj returned)
  have listed := found
  unfold findMerchant at listed
  have wanted := List.find?_some listed
  have chosen := Bool.and_eq_true_iff.mp wanted
  refine ⟨?_, le_rfl, chosen.2, of_decide_eq_true chosen.1⟩
  refine List.mem_append_right _ (List.mem_map.mpr ⟨row, ?_, rfl⟩)
  exact Option.mem_toList.mpr found

/-- The credentials are those of a row that was read. -/
structure Credited (crypto : CryptoService) (merchantId : String)
    (credentials : MerchantCredentials) (time : Time) (row : CasinoGroup) (state : State jwt) :
    Prop extends Found merchantId row time state where
  group : credentials.group = groupContext row
  secret : ∃ stored, row.sportsSecret = some stored ∧
    crypto.decrypt stored = .ok credentials.sportsSecret

theorem getMerchantCredentials_safe (merchantId : String) (state : State jwt) :
    (authenticating jwt config crypto).Safe
      (fun outcome after => ∀ credentials time, outcome = .ok (some credentials, time) →
        ∃ row, Credited crypto merchantId credentials time row after)
      (getMerchantCredentials jwt crypto merchantId) state := by
  refine Contract.Safe.bind (findCredentials_safe merchantId state) ?_
    fun _ _ _ _ _ never => by cases never
  intro answer after known
  obtain ⟨row, time⟩ := answer
  cases row with
  | none => exact fun _ _ never => by cases never
  | some row =>
      dsimp only
      cases kept : nonEmpty row.sportsSecret with
      | none => exact fun _ _ never => by cases never
      | some stored =>
          dsimp only
          cases decrypted : crypto.decrypt stored with
          | error failure => exact fun _ _ never => by cases never
          | ok sportsSecret =>
              intro credentials read returned
              cases returned
              exact ⟨row, known row time rfl, rfl, stored, eq_some_of_nonEmpty kept, decrypted⟩

variable {text merchantId : String} {credentials : MerchantCredentials} {time : Time}
  {launch : VerifiedLaunch}

/-- A verified launch is what the claims of the token say. -/
structure Read (jwt : Format) (config : AuthConfig) (text : String) (credentials : MerchantCredentials)
    (time : Time) (launch : VerifiedLaunch) : Prop where
  token : jwt.parse text = some (jwt.sign credentials.sportsSecret (.claims launch.claims))
  unexpired : (Payload.claims launch.claims).unexpired
    (seconds time - config.OPERATOR_JWT_CLOCK_SKEW) = true
  begun : (Payload.claims launch.claims).begun
    (seconds time + config.OPERATOR_JWT_CLOCK_SKEW) = true
  userId : launch.claims.lookup "userId" = some (.text launch.payload.userId)
  username : launch.claims.lookup "username" = some (.text launch.payload.username)
  credentials : launch.credentials = credentials
  time : launch.time = time

theorem read_of_verified
    (accepted : verified jwt config text merchantId credentials time = .ok launch) :
    Read jwt config text credentials time launch := by
  unfold verified at accepted
  split at accepted
  · next claims read =>
      obtain ⟨token, parsed, within⟩ := Option.bind_eq_some_iff.mp read
      obtain ⟨rfl, unexpired, begun⟩ := Format.verifyWithin_eq_some.mp within
      split at accepted
      · next userId username user name =>
          cases accepted
          exact ⟨parsed, unexpired, begun, user, name, rfl, rfl⟩
      · cases accepted
  · cases accepted

/-- The merchant id is the one that the signature covers. -/
theorem decoded_of_signed {secret : String} {claims : Claims}
    (parsed : jwt.parse text = some (jwt.sign secret (.claims claims)))
    (decoded : decodedMerchantId jwt text = some merchantId) :
    claims.lookup "merchantId" = some (.text merchantId) := by
  unfold decodedMerchantId at decoded
  rw [parsed, Option.bind_some, jwt.decode_sign] at decoded
  dsimp only at decoded
  split at decoded
  · next named told =>
      rw [told, Option.some.inj (eq_some_of_nonEmpty decoded)]
  · cases decoded

/-- Whatever session is minted for the launch, it is a genuine one. -/
def Mintable (config : AuthConfig) (crypto : CryptoService) (launch : VerifiedLaunch)
    (state : State jwt) : Prop :=
  ∀ session, SessionService.mint jwt.toScheme config.toTokenConfig launch.user
    (seconds launch.time) = some session →
      Launch.Genuine config crypto ⟨launch.user, launch.claims, launch.credentials.sportsSecret,
        launch.time, session.sessionToken⟩ state

theorem verify_safe {state : State jwt}
    (arrived : Arrived config (some text) time state) :
    (authenticating jwt config crypto).Safe
      (fun outcome after => ∀ launch, outcome = .ok launch → Mintable config crypto launch after)
      (verify jwt config crypto text) state := by
  unfold verify
  cases decoded : decodedMerchantId jwt text with
  | none => exact fun _ never => by cases never
  | some merchantId =>
      have lasting : (authenticating jwt config crypto).Lasting fun state : State jwt =>
        Arrived config (some text) time state := lasting_of_grows Arrived.grows
      have read : (authenticating jwt config crypto).Safe _
          (getMerchantCredentials jwt crypto merchantId) state :=
        getMerchantCredentials_safe merchantId state
      have credited := Contract.Safe.lasting lasting arrived read
      refine Contract.Safe.bind credited ?_ fun _ _ _ _ never => by cases never
      intro answer after known
      obtain ⟨credentials, read⟩ := answer
      obtain ⟨backed, still⟩ := known
      cases credentials with
      | none => exact fun _ never => by cases never
      | some credentials =>
          intro launch accepted session minted
          obtain ⟨row, credited⟩ := backed credentials read rfl
          obtain ⟨parsed, unexpired, begun, userId, username, rfl, rfl⟩ := read_of_verified accepted
          have merchant := decoded_of_signed parsed decoded
          have signed := still.launch _ parsed _ _ rfl (by simp [merchant])
          refine ⟨credited.past, signed, unexpired, begun, userId, username,
            ⟨_, credited.read, rfl, credited.active, ?_, ?_, ⟨merchantId, credited.merchant, merchant⟩,
              credited.secret⟩, session, minted, rfl⟩
          · simp [VerifiedLaunch.user, credited.group, groupContext]
          · simp [VerifiedLaunch.user, credited.group, groupContext]

theorem launch_runs (token : Option String) (state : State jwt) :
    (authenticating jwt config crypto).Runs (Auth.launch jwt config crypto token) state := by
  refine Contract.Runs.bind (arrive_safe token state) ?_
  intro time after known
  cases given : nonEmpty token with
  | none => trivial
  | some text =>
      have arrived := known time rfl
      rw [eq_some_of_nonEmpty given] at arrived
      refine Contract.Runs.bind (verify_safe arrived) ?_
      intro launch later mintable
      cases minted : SessionService.mint jwt.toScheme config.toTokenConfig launch.user
        (seconds launch.time) with
      | none => trivial
      | some session =>
          have genuine := mintable launch rfl session minted
          exact Contract.Runs.seq (Contract.Safe.call fun _ waited _ =>
            ⟨genuine.grows waited, fun _ _ => trivial⟩) fun _ _ => trivial

end Exchange

section Runs

/-- The tenants are looked at, and removed from the cache. -/
def Unwritten {Reply : Type} : Joint CacheCall (Query Database Failure) Reply → Prop
  | .own call => call.writes = none
  | .other _ => True

def Harmless {Reply : Type} : Joint (AuthCall jwt) (Query Database Failure) Reply → Prop
  | .own (.cache call) => call.writes = none
  | .own _ => False
  | .other _ => True

theorem harmless_runs {program : AuthService jwt Unit} (harmless : program.CallsOnly Harmless)
    (state : State jwt) : (authenticating jwt config crypto).Runs program state := by
  refine (Contract.Safe.of_callsOnly (fun _ _ _ _ _ => trivial) ?_ (fun _ _ _ _ _ => trivial)
    harmless trivial).runs
  intro Reply request state allowed
  cases request with
  | other query => trivial
  | own call =>
      cases call with
      | cache call =>
          cases call with
          | set key group => cases allowed
          | get key => trivial
          | del group => trivial
      | _ => exact allowed.elim

theorem prisma_unwritten {α : Type} (service : Service α) :
    (CasinoGroups.prisma service).CallsOnly Unwritten :=
  (Program.callsOnly_trivial service).mapCalls fun _ _ => trivial

theorem patchTenant_unwritten (casinoGroupId : String) (dto : PatchTenantDto)
    (staffUserId : String) :
    (CasinoGroups.patchTenant casinoGroupId dto staffUserId).CallsOnly Unwritten :=
  .bind (prisma_unwritten _) fun _ => .bind (prisma_unwritten _) fun _ =>
    .bind ((Program.callsOnly_call _).mpr rfl) fun _ => .bind (prisma_unwritten _) fun _ => trivial

theorem tenants_harmless {α : Type} {service : CacheService α}
    (unwritten : service.CallsOnly Unwritten) :
    (tenants service : AuthService jwt α).CallsOnly Harmless := by
  refine unwritten.mapCalls fun request allowed => ?_
  cases request with
  | own call => exact allowed
  | other query => trivial

/-- Nobody but the service signs tokens that pass for its sessions. -/
def AuthAction.Honest (jwt : Format) (config : AuthConfig) : AuthAction → Prop
  | .sign secret payload => Apart jwt config secret payload
  | _ => True

theorem action_runs {action : AuthAction} (honest : action.Honest jwt config) (state : State jwt) :
    (authenticating jwt config crypto).Runs (action.program jwt config crypto runtime) state := by
  cases action with
  | sign secret payload => exact Contract.Safe.call fun _ _ _ => ⟨honest, fun _ _ => trivial⟩
  | launch token => exact (launch_runs token state).void
  | visit request needsUser => exact (visit_runs request needsUser state).void
  | patchTenant casinoGroupId dto staffUserId =>
      exact harmless_runs (tenants_harmless (patchTenant_unwritten _ _ _)).void state
  | other service =>
      exact harmless_runs ((Program.callsOnly_trivial service).mapCalls fun _ _ => trivial) state

variable (jwt config crypto runtime) in
/-- In every run a request was let in for the player of a genuine launch, while the session
lasted, and for the player's own tenant; without a player only where the fallback is on. -/
theorem visits_launched {list : List AuthAction} (honest : ∀ action ∈ list, action.Honest jwt config)
    (db : Database) {cache : Cache} (filed : ∀ entry ∈ cache, Filed entry.key entry.group)
    (clock : Time) {moves : List (Move (authMachine jwt))}
    (follows : (actions jwt config crypto runtime list db cache clock).Follows arriving moves) :
    let state := ((actions jwt config crypto runtime list db cache clock).run moves).state
    ∀ visit ∈ state.visits,
      (visit.user = none → config.AUTH_ALLOW_HEADER_FALLBACK = true) ∧
      ∀ user, visit.user = some user → visit.group.id = user.casinoGroupId ∧
        ∃ launch ∈ state.launches, launch.Opens config user visit.time ∧
          launch.Genuine config crypto state := by
  have start : (authenticating jwt config crypto).Healthy
      (actions jwt config crypto runtime list db cache clock) := by
    refine ⟨⟨filed, by simp [actions], by simp [actions], by simp [actions]⟩, ?_⟩
    intro program member
    obtain ⟨action, listed, rfl⟩ := List.mem_map.mp member
    exact action_runs (honest action listed) _
  have sound := (start.run authenticating_stable authenticating_protects follows).sound
  intro state visit visited
  have admitted := sound.visits visit visited
  unfold Visit.Admitted at admitted
  refine ⟨fun anonymous => ?_, fun user known => ?_⟩
  · simpa only [anonymous] using admitted
  · simp only [known] at admitted
    obtain ⟨own, launch, member, opens⟩ := admitted
    exact ⟨own, launch, member, opens, sound.launches launch member⟩

end Runs

section Sample

open Bytes

/-- A cipher whose tags are the keys. -/
def keyedAead : Aead where
  encipher key _ plaintext := (plaintext, (key ++ List.replicate 16 0).take 16)
  decipher key _ tag ciphertext :=
    if tag = (key ++ List.replicate 16 0).take 16 then some ciphertext else none
  tag_length key _ _ := by simp
  decipher_iff := by
    intro key iv tag ciphertext plaintext _ _
    rw [Option.ite_none_right_eq_some, Option.some.injEq, Prod.mk.injEq, and_comm, eq_comm]
    exact and_congr_right fun _ => eq_comm

def keyedCrypto : CryptoService := ⟨keyedAead, ofText "key"⟩

def tokenConfig : AuthConfig where
  SESSION_JWT_SECRET := "session"
  SESSION_TTL := "30m"
  STAFF_JWT_SECRET := "staff"
  STAFF_ACCESS_TTL := "15m"
  OPERATOR_JWT_CLOCK_SKEW := 5
  AUTH_ALLOW_HEADER_FALLBACK := false

/-- The operator's claims of a player. -/
def annClaims : Claims :=
  [("userId", .text "ann"), ("username", .text "Ann"), ("merchantId", .text "acme-merchant"),
    ("exp", .number 3)]

def annSession : Claims := Scheme.stamped (SessionService.claims ⟨"ann", "Ann", "acme", "EUR"⟩) 2 1800

/-- The two tokens of a launch, as texts. -/
def openFormat : Format where
  toScheme := .plain inMinutes
  parse text :=
    if text = "launch" then some ("secret", .claims annClaims)
    else if text = "token" then some ("session", .claims annSession)
    else none
  decode token := some token.2
  decode_sign _ _ := rfl

def launchDatabase : Database :=
  { StaffScopeService.grantedDatabase with
    catalog.casinoGroups := ⟨[⟨"acme", "acme", true, "EUR", some "acme-merchant",
      some (keyedCrypto.encrypt (List.replicate 12 0) "secret"), none, "Acme", "UTC"⟩], by simp⟩ }

def launchActions : List AuthAction :=
  [.sign "secret" (.claims annClaims), .launch (some "launch"),
    .visit { authorization := some "Bearer token" } true]

def launched : Config (authMachine openFormat) :=
  actions openFormat tokenConfig keyedCrypto Text.asciiRuntime launchActions launchDatabase .empty 2999

def launchMoves : List (Move (authMachine openFormat)) :=
  [.run 0 .none] ++ List.replicate 3 (.run 1 .none) ++ List.replicate 5 (.run 2 .none)

theorem ann_launched : (launched.run launchMoves).state.visits.map Visit.user =
      [some ⟨"ann", "Ann", "acme", "EUR"⟩] ∧
    ∀ visit ∈ (launched.run launchMoves).state.visits,
      (visit.user = none → tokenConfig.AUTH_ALLOW_HEADER_FALLBACK = true) ∧
      ∀ user, visit.user = some user → visit.group.id = user.casinoGroupId ∧
        ∃ launch ∈ (launched.run launchMoves).state.launches,
          launch.Opens tokenConfig user visit.time ∧
          launch.Genuine tokenConfig keyedCrypto (launched.run launchMoves).state := by
  have honest : ∀ action ∈ launchActions, action.Honest openFormat tokenConfig := by
    have apart : Apart openFormat tokenConfig "secret" (.claims annClaims) := by
      intro other same
      have differ : "secret" ≠ "session" := by decide
      exact differ (congrArg Prod.fst same)
    simpa [launchActions, AuthAction.Honest] using apart
  have followed : launched.Follows arriving launchMoves := by
    refine ⟨trivial, ?_, trivial, trivial, ?_, trivial, trivial, trivial, trivial, trivial⟩
    · intro token parsed
      obtain rfl := Option.some.inj parsed
      exact List.mem_cons_self
    · intro token parsed
      obtain rfl := Option.some.inj parsed
      exact List.mem_cons_of_mem _ List.mem_cons_self
  exact ⟨by decide +kernel, visits_launched openFormat tokenConfig keyedCrypto Text.asciiRuntime
    honest launchDatabase (by simp) 2999 followed⟩

end Sample

end SportsBetting.Auth
