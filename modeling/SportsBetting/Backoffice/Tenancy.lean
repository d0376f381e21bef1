import SportsBetting.Async.Embedding
import SportsBetting.Auth.Sessions
import SportsBetting.Backoffice.Confined
import SportsBetting.Backoffice.Sparing

/-!
# The back office keeps tenants apart

Requests of members of staff, and whatever players and the workers do with bets, are answered
in any order. A request of a member without access to a tenant changes nothing of it.
-/

namespace SportsBetting.Portal

open Async Program Trading StaffScopeService

section Strangers

variable {staff : StaffContext} {tenant : String} {db : Database}

/-- The member may access the tenant. -/
def HasAccess (staff : StaffContext) (tenant : String) (db : Database) : Prop :=
  ∃ group ∈ db.catalog.casinoGroups, group.id = tenant ∧ Accessible staff db group

def Stranger (staff : StaffContext) (tenant : String) (db : Database) : Prop :=
  ¬ HasAccess staff tenant db

/-- What no grant changes: the member is not bound to the tenant, and no super admin. -/
structure Apart (staff : StaffContext) (tenant : String) : Prop where
  bound : nonEmpty staff.casinoGroupId ≠ some tenant
  super : nonEmpty staff.casinoGroupId = none → .superAdmin ∉ staff.roles

theorem Stored.group (stored : Stored tenant db) :
    ∃ group ∈ db.catalog.casinoGroups, group.id = tenant := by
  obtain ⟨group, found⟩ := Option.isSome_iff_exists.mp stored
  obtain ⟨member, same⟩ := Table.get?_eq_some_iff.mp found
  exact ⟨group, member, same⟩

theorem Stranger.apart (stored : Stored tenant db) (stranger : Stranger staff tenant db) :
    Apart staff tenant := by
  obtain ⟨group, member, same⟩ := stored.group
  have refused : ¬ Accessible staff db group := fun may => stranger ⟨group, member, same, may⟩
  unfold Accessible at refused
  constructor
  · intro own
    rw [own] at refused
    exact refused same
  · intro free super
    rw [free] at refused
    exact refused (.inl super)

/-- A platform admin who is a stranger has no grant for the tenant. -/
theorem Stranger.ungranted (stored : Stored tenant db) (stranger : Stranger staff tenant db)
    (free : nonEmpty staff.casinoGroupId = none) (admin : .platformAdmin ∈ staff.roles) :
    db.staff.access.get? (staff.staffUserId, tenant) = none := by
  obtain ⟨group, member, rfl⟩ := stored.group
  have refused : ¬ Accessible staff db group := fun may => stranger ⟨group, member, rfl, may⟩
  unfold Accessible at refused
  rw [free] at refused
  rw [Table.get?_eq_none_iff]
  intro grant there key
  exact refused (.inr ⟨admin, grant, there, key⟩)

end Strangers

section Contract

variable (detail : Detail) (tenant : String) (known : Database → Prop)

/-- What a program may do that spares a tenant, where `known` holds whenever a call of it is
answered. -/
@[reducible] def sparing : Contract machine where
  invariant portal := Stored tenant portal.world.db
  rely _ before after := before.world.db.ledger.Owned after.world.db.ledger ∧
    Attached before.world.db.staff after.world.db.staff
  proper request portal := ∀ choice,
    (State.perform choice request portal).2.holdings detail tenant = portal.holdings detail tenant
  admits portal _ _ := known portal.world.db

variable {detail tenant known}

theorem stored_of_holdings {before after : State}
    (same : after.holdings detail tenant = before.holdings detail tenant)
    (stored : Stored tenant before.world.db) : Stored tenant after.world.db := by
  have groups := congrArg (fun holdings => holdings.rows.group) same
  unfold Stored
  exact (congrArg Option.isSome groups).trans stored

theorem sparing_stable : (sparing detail tenant known).Stable where
  refl _ portal := ⟨.refl portal.world.db.ledger, .refl portal.world.db.staff⟩
  trans _ _ _ _ earlier later := ⟨earlier.1.trans later.1, earlier.2.trans later.2⟩
  keeps _ choice _ stored proper _ := stored_of_holdings (proper choice) stored
  sound _ _ stored := stored
  event _ _ portal _ := ⟨.refl portal.world.db.ledger, .refl portal.world.db.staff⟩

/-- The betting machine inside the portal. -/
def bettingPart : Embedding bettingMachine machine where
  embed := Call.betting
  part := State.world
  choose choice := choice
  reply _ _ _ := rfl
  after _ _ _ := rfl

theorem bettingPart_carries :
    Contract.Carries bettingPart (sparingBets detail tenant) (sparing detail tenant known) where
  invariant _ := trivial
  rely _ _ _ waited := waited.1
  proper _ _ proper choice := holdings_of_rows (proper choice) rfl
  admits _ _ _ _ := trivial

variable {α : Type} {portal : State}

theorem runs_betting {program : Betting α}
    (safe : (sparingBets detail tenant).Runs program portal.world) :
    (sparing detail tenant known).Runs (betting program) portal :=
  Contract.Safe.mapCalls bettingPart_carries safe

variable {casinoGroupId : String}

/-- A program for another tenant. -/
theorem runs_confined {program : PortalService α} (apart : casinoGroupId ≠ tenant)
    (only : program.CallsOnly (Call.Confined detail casinoGroupId)) :
    (sparing detail tenant known).Runs program portal := by
  refine Contract.Safe.of_callsOnly (fun _ _ _ _ held => held) ?_ (fun _ _ _ _ held => held) only
    trivial
  exact fun _ state confined choice => confined.others choice state tenant apart.symm

theorem runs_prisma {service : Service α} (apart : casinoGroupId ≠ tenant)
    (only : service.CallsOnly (Confines detail casinoGroupId)) :
    (sparing detail tenant known).Runs (prisma service) portal :=
  runs_confined apart (prisma_confined only)

/-- A read, in a state in which what is known holds. -/
theorem safe_look {β : Type} {look : Database → α} {next : α → Service β}
    {post : Except Failure β → State → Prop}
    (rest : ∀ later : State, Stored tenant later.world.db → known later.world.db →
      (sparing detail tenant known).Safe post (prisma (next (look later.world.db))) later)
    (failed : ∀ later, post (.error .database) later) :
    (sparing detail tenant known).Safe post (prisma (read look >>= next)) portal := by
  intro later waited stored
  refine ⟨fun choice => ?_, fun choice admitted => ?_⟩
  · simp only [State.perform]
    cases choice.fault <;> rfl
  · simp only [State.perform]
    cases choice.fault with
    | none => exact rest later stored admitted
    | refused => exact failed later
    | unacknowledged => exact failed later

/-- A transaction that, if it is carried out, is one for another tenant. -/
theorem safe_transaction {change : Database → Except Failure (α × Database)} {holds : α → Prop}
    (each : ∀ db reply after, Stored tenant db → change db = .ok (reply, after) →
      holds reply ∧ ∃ casinoGroupId, casinoGroupId ≠ tenant ∧
        Confined detail casinoGroupId db after) :
    (sparing detail tenant known).Safe (fun outcome _ => ∀ reply, outcome = .ok reply → holds reply)
      (prisma (transaction change)) portal := by
  refine Contract.Safe.call fun later _ stored => ?_
  simp only [State.perform, Query.transaction]
  cases changed : change later.world.db with
  | error failure =>
      refine ⟨fun choice => ?_, fun choice _ reply => ?_⟩
      · cases choice.fault <;> rfl
      · cases choice.fault <;> simp
  | ok result =>
      obtain ⟨held, casinoGroupId, apart, confined⟩ := each _ _ _ stored changed
      refine ⟨fun choice => ?_, fun choice _ reply returned => ?_⟩
      · cases choice.fault with
        | refused => rfl
        | none => exact holdings_of_rows (confined.others tenant apart.symm) rfl
        | unacknowledged => exact holdings_of_rows (confined.others tenant apart.symm) rfl
      · cases fault : choice.fault with
        | none => exact Except.ok.inj (fault ▸ returned) ▸ held
        | refused => simp [fault] at returned
        | unacknowledged => simp [fault] at returned

end Contract

section Access

variable {detail : Detail} {tenant : String} {staff : StaffContext} {portal : State}

/-- The check lets a stranger through for other tenants only. -/
theorem safe_access (apart : Apart staff tenant) (requested : String) :
    (sparing detail tenant (Stranger staff tenant)).Safe
      (fun outcome _ => outcome = .ok () → requested ≠ tenant)
      (prisma (assertCasinoGroupAccess staff requested)) portal := by
  have refused : ∀ {state : State} {failure : Failure},
      (sparing detail tenant (Stranger staff tenant)).Safe
        (fun outcome _ => outcome = .ok () → requested ≠ tenant)
        (prisma (throw failure : Service Unit)) state := by
    intro state failure impossible
    cases impossible
  apply safe_look
  · intro later _ _
    cases later.world.db.catalog.casinoGroups.get? requested with
    | none => exact refused
    | some group =>
        dsimp only
        cases bound : nonEmpty staff.casinoGroupId with
        | some own =>
            dsimp only
            split
            · exact refused
            · next same =>
                intro _ there
                apply apart.bound
                rw [bound, ← there, Classical.not_not.mp same]
        | none =>
            have super : ¬ hasStaffRole staff.roles .superAdmin = true :=
              mt hasStaffRole_iff.mp (apart.super bound)
            dsimp only
            split
            · exact refused
            · split
              · next admin =>
                  apply safe_look
                  · intro later stored stranger
                    cases granted : later.world.db.staff.access.get?
                        (staff.staffUserId, requested) with
                    | none => exact refused
                    | some grant =>
                        rintro _ rfl
                        have none := stranger.ungranted stored bound (hasStaffRole_iff.mp admin)
                        rw [granted] at none
                        cases none
                  · intro _ impossible
                    cases impossible
              · exact refused
  · intro _ impossible
    cases impossible

/-- What is resolved for a stranger is another tenant. -/
theorem safe_resolve (apart : Apart staff tenant) (requested : Option String) :
    (sparing detail tenant (Stranger staff tenant)).Safe
      (fun outcome _ => ∀ casinoGroupId, outcome = .ok casinoGroupId → casinoGroupId ≠ tenant)
      (prisma (resolveCasinoGroupId staff requested)) portal := by
  unfold resolveCasinoGroupId
  cases bound : nonEmpty staff.casinoGroupId with
  | some own =>
      have other : own ≠ tenant := fun same => apart.bound (bound.trans (congrArg some same))
      dsimp only
      split
      · split
        · intro _ impossible
          cases impossible
        · intro _ returned
          rwa [← Except.ok.inj returned]
      · intro _ returned
        rwa [← Except.ok.inj returned]
  | none =>
      dsimp only
      split
      · intro _ impossible
        cases impossible
      · next requested _ =>
          unfold prisma
          rw [mapCalls_bind]
          apply Contract.Safe.bind (safe_access apart requested)
          · intro _ state allowed _ returned
            rw [← Except.ok.inj returned]
            exact allowed rfl
          · intro _ _ _ _ impossible
            cases impossible

/-- A service that a stranger asks for is one for another tenant. -/
theorem runs_forTenant (apart : Apart staff tenant) {requested : Option String}
    {service : String → PortalService Unit}
    (serves : ∀ casinoGroupId, casinoGroupId ≠ tenant → ∀ state,
      (sparing detail tenant (Stranger staff tenant)).Runs (service casinoGroupId) state) :
    (sparing detail tenant (Stranger staff tenant)).Runs (forTenant staff requested service)
      portal :=
  Contract.Runs.bind (safe_resolve apart requested) fun casinoGroupId state resolved =>
    serves casinoGroupId (resolved casinoGroupId rfl) state

end Access

section Settling

variable {tenant casinoGroupId : String} {known : Database → Prop} {runtime : Text.Runtime}
  {portal : State}

theorem runs_recordAudit {detail : Detail} {entry : AuditEntry} (apart : casinoGroupId ≠ tenant)
    (own : entry.casinoGroupId = some casinoGroupId) :
    (sparing detail tenant known).Runs (prisma (recordAudit entry)) portal := by
  apply runs_prisma apart (recordAudit_confines _)
  rw [own]
  exact named_self

/-- Settling touches the notes and the deliveries of the other tenants, and nothing else. -/
theorem spares_applyManualResultAndSettle (apart : casinoGroupId ≠ tenant) (eventId : String)
    (homeScore awayScore : ℤ) (staffUserId : String) :
    (sparing .core tenant known).Runs (Portal.applyManualResultAndSettle runtime casinoGroupId
      eventId homeScore awayScore staffUserId) portal := by
  apply Contract.Runs.seq (runs_prisma apart (read_confines _))
  intro openBets _
  split
  · trivial
  apply Contract.Runs.seq (runs_prisma apart (read_confines _))
  intro event _
  cases event with
  | none => trivial
  | some event =>
      apply Contract.Runs.seq (runs_prisma apart (finalizeEventResult_confines _ _ _ _))
      intro updatedEventId _
      cases updatedEventId with
      | none => trivial
      | some _ =>
          apply Contract.Runs.seq (runs_recordAudit apart rfl)
          intro _ _
          apply Contract.Runs.seq (runs_betting (runs_settleBetsForEvent apart eventId))
          intro counts _
          exact Contract.Runs.seq (runs_recordAudit apart rfl) fun _ _ => trivial

theorem spares_applyManualResultByProviderRef (apart : casinoGroupId ≠ tenant)
    (providerRef : String) (homeScore awayScore : ℤ) (staffUserId : String) :
    (sparing .core tenant known).Runs (applyManualResultByProviderRef runtime casinoGroupId
      providerRef homeScore awayScore staffUserId) portal := by
  apply Contract.Runs.seq (runs_prisma apart (read_confines _))
  intro event _
  cases event with
  | none => trivial
  | some event => exact spares_applyManualResultAndSettle apart _ _ _ _

theorem spares_runSettlementForEvent (apart : casinoGroupId ≠ tenant) (eventId : String)
    (staffUserId : String) :
    (sparing .core tenant known).Runs (runSettlementForEvent runtime casinoGroupId eventId
      staffUserId) portal := by
  apply Contract.Runs.seq (runs_betting (runs_silent (loadUnsettledEventRow_silent _ _)))
  intro row _
  cases row with
  | none => trivial
  | some row =>
      dsimp only
      split
      · trivial
      · apply Contract.Runs.seq (runs_betting (runs_settleBetsForEvent apart eventId))
        intro counts _
        exact Contract.Runs.seq (runs_recordAudit apart rfl) fun _ _ => trivial

end Settling

section Accounts

variable {detail : Detail} {tenant : String} {staff : StaffContext} {runtime : Text.Runtime}
  {crypto : Crypto} {portal : State}

/-- A merchant cannot be created under the id of a tenant that is there. -/
theorem spares_createMerchant {known : Database → Prop} (dto : Merchants.CreateMerchantDto)
    (generated : Merchants.Generated) :
    (sparing detail tenant known).Runs
      (prisma (Merchants.createMerchant runtime crypto dto staff generated)) portal := by
  have inserted : ∀ offeredKeys grantTo, (sparing detail tenant known).Safe
      (fun outcome _ => ∀ group, outcome = .ok group → group.id ≠ tenant)
      (prisma (transaction (Merchants.insertMerchant
        (Merchants.merchantGroup runtime crypto dto generated) offeredKeys grantTo
        (Merchants.operatorUser runtime crypto dto generated)))) portal := by
    intro offeredKeys grantTo
    apply safe_transaction
    intro db created after stored done
    obtain ⟨same, missing, confined⟩ := insertMerchant_confined rfl done
    rw [← same] at missing confined
    refine ⟨?_, _, ?_, confined⟩ <;>
      · rintro rfl
        unfold Stored at stored
        rw [missing] at stored
        cases stored
  unfold Merchants.createMerchant prisma
  rw [mapCalls_bind]
  apply Contract.Runs.bind (inserted _ _)
  intro group state apart
  rw [mapCalls_bind]
  exact Contract.Runs.seq (runs_recordAudit (apart group rfl) rfl) fun _ _ => trivial

theorem spares_createOperatorAdmin (apart : Apart staff tenant) (casinoGroupId : String)
    (dto : StaffAdminService.CreateOperatorStaffDto) (fresh : StaffAdminService.NewOperator) :
    (sparing detail tenant (Stranger staff tenant)).Runs (prisma
      (StaffAdminService.createOperatorAdmin runtime crypto staff casinoGroupId dto fresh))
      portal := by
  by_cases other : casinoGroupId ≠ tenant
  · exact runs_prisma other (createOperatorAdmin_confines staff casinoGroupId dto fresh)
  · unfold StaffAdminService.createOperatorAdmin
    split
    · trivial
    · unfold prisma
      rw [mapCalls_bind]
      apply Contract.Runs.bind (safe_access apart casinoGroupId)
      exact fun _ _ allowed => absurd (allowed rfl) other

/-- There is such a member of the tenant's staff. -/
def MemberOf (staffUserId casinoGroupId : String) (db : Database) : Prop :=
  ∃ user, db.staff.users.get? staffUserId = some user ∧ user.casinoGroupId = some casinoGroupId

theorem MemberOf.attached {staffUserId casinoGroupId : String} {before after : Database}
    (attached : Attached before.staff after.staff)
    (member : MemberOf staffUserId casinoGroupId before) :
    MemberOf staffUserId casinoGroupId after := by
  obtain ⟨user, stored, own⟩ := member
  obtain ⟨later, there, same⟩ := attached staffUserId user stored
  exact ⟨later, there, same.trans own⟩

theorem spares_updateUser {known : Database → Prop} {staffUserId casinoGroupId : String}
    {email passwordHash : Option String} (apart : casinoGroupId ≠ tenant)
    (member : MemberOf staffUserId casinoGroupId portal.world.db) :
    (sparing detail tenant known).Runs
      (staffed (StaffAuth.issue (.updateUser staffUserId email passwordHash))) portal := by
  refine Contract.Safe.call fun later waited _ => ⟨fun choice => ?_, fun _ _ => trivial⟩
  obtain ⟨user, stored, own⟩ := member.attached waited.2
  have confined : Confined detail casinoGroupId later.world.db
      (staffQuery (.own (.updateUser staffUserId email passwordHash)) later.world.db).2 := by
    simp only [staffQuery, StaffAuth.StaffCall.run, StaffAuth.State.attempt]
    cases done : StaffAuth.updateUser later.world.db staffUserId email passwordHash with
    | error failure => exact .refl _
    | ok after =>
        obtain ⟨other, updated, sessions, there, rfl, same, still, rfl⟩ := updateUser_ok done
        rw [stored] at there
        obtain rfl := Option.some.inj there
        exact .update stored own same still
  rcases perform_database _ choice later with same | carried
  · rw [same]
  · rw [carried]
    exact holdings_of_rows (confined.others tenant apart.symm) rfl

/-- A query that only reads. -/
theorem spares_findUser {known : Database → Prop} (staffUserId : String) :
    (sparing detail tenant known).Safe (fun outcome after => ∀ user, outcome = .ok user →
      after.world.db.staff.users.get? staffUserId = user)
      (staffed (StaffAuth.issue (.findUser staffUserId))) portal := by
  refine Contract.Safe.call fun later _ _ => ⟨fun choice => ?_, fun choice _ user => ?_⟩
  · simp only [State.perform]
    cases choice.fault <;> rfl
  · simp only [State.perform]
    cases choice.fault with
    | none => exact fun returned => Except.ok.inj returned
    | refused => simp
    | unacknowledged => simp

theorem staffed_queries {α : Type} (service : Service α) :
    staffed (StaffAuth.queries service) = prisma service := by
  unfold staffed StaffAuth.queries prisma
  induction service with
  | done outcome => rfl
  | await query next ih => exact congrArg (Program.await (Call.database query)) (funext ih)

theorem spares_recordAudit {known : Database → Prop} {casinoGroupId : String} {entry : AuditEntry}
    (apart : casinoGroupId ≠ tenant) (own : entry.casinoGroupId = some casinoGroupId) :
    (sparing detail tenant known).Runs (staffed (StaffAuth.queries (recordAudit entry)))
      portal := by
  rw [staffed_queries]
  exact runs_recordAudit apart own

/-- Only members of the tenant that the request is for are updated, and they stay members of
it in the meantime. -/
theorem spares_updateOperatorAdmin (apart : Apart staff tenant)
    (staffUserId casinoGroupId : String) (dto : StaffAuth.UpdateOperatorStaffDto) (salt : String) :
    (sparing detail tenant (Stranger staff tenant)).Runs (staffed (StaffAuth.updateOperatorAdmin
      runtime crypto staff staffUserId casinoGroupId dto salt)) portal := by
  unfold StaffAuth.updateOperatorAdmin StaffAuth.checked
  cases StaffAuth.assertPlatformStaff staff with
  | error failure => trivial
  | ok _ =>
      have access : (sparing detail tenant (Stranger staff tenant)).Safe
          (fun outcome _ => outcome = .ok () → casinoGroupId ≠ tenant)
          (staffed (StaffAuth.queries (assertCasinoGroupAccess staff casinoGroupId))) portal := by
        rw [staffed_queries]
        exact safe_access apart casinoGroupId
      unfold staffed at access ⊢
      rw [bind_ok, mapCalls_bind]
      apply Contract.Runs.bind access
      intro _ state allowed
      have other := allowed rfl
      dsimp only
      split
      · trivial
      rw [mapCalls_bind]
      apply Contract.Runs.bind (spares_findUser staffUserId)
      intro existing state found
      cases existing with
      | none => trivial
      | some existing =>
          dsimp only
          split
          · trivial
          · next same =>
              have member : MemberOf staffUserId casinoGroupId state.world.db := by
                refine ⟨existing, found _ rfl, ?_⟩
                simp only [Bool.or_eq_true, not_or, decide_eq_true_eq, ne_eq,
                  Classical.not_not] at same
                exact same.1
              rw [mapCalls_bind]
              apply Contract.Runs.seq (spares_updateUser other member)
              intro _ state
              rw [mapCalls_bind]
              apply Contract.Runs.seq (spares_recordAudit other rfl)
              intro _ state
              rw [mapCalls_bind]
              apply Contract.Runs.seq (spares_findUser staffUserId).runs
              intro updated _
              cases updated <;> trivial

end Accounts

section Handlers

variable {env : Environment} {staff : StaffContext} {tenant : String} {portal : State}

/-- Where an event is settled, all rows that are due are delivered and all notes on bets
of the event are cleared. -/
def Route.detail : Route → Detail
  | .runEventSettlement _ | .applyProviderResult .. | .applyEventResult .. => .core
  | _ => .full

theorem runs_checked {α : Type} {contract : Contract machine} {result : Except Failure α}
    {next : α → PortalService Unit} {state : State}
    (rest : ∀ value, result = .ok value → contract.Runs (next value) state) :
    contract.Runs (checked result >>= next) state := by
  cases result with
  | error failure => trivial
  | ok value => exact rest value rfl

theorem free_of_assertSuperAdmin (passed : assertSuperAdmin staff = .ok ()) :
    nonEmpty staff.casinoGroupId = none ∧ .superAdmin ∈ staff.roles := by
  obtain ⟨_, platform, passed⟩ := Except.bind_eq_ok.mp passed
  constructor
  · unfold StaffAuth.assertPlatformStaff at platform
    split at platform
    · cases platform
    · next bound => simpa using bound
  · split at passed
    · cases passed
    · next admin => exact hasStaffRole_iff.mp (by simpa using admin)

/-- A stranger's request spares the tenant, whatever it asks for. -/
theorem spares_handler (apart : Apart staff tenant) (requested : Option String) (route : Route) :
    (sparing route.detail tenant (Stranger staff tenant)).Runs
      (route.handler env staff requested) portal := by
  cases route with
  | updateLeagues leagues =>
      refine runs_forTenant apart fun casinoGroupId other state => ?_
      exact Contract.Runs.void (runs_prisma other (updateLeagues_confines _ _ _ _))
  | patchTenant dto =>
      refine runs_forTenant apart fun casinoGroupId other state => ?_
      exact Contract.Runs.void (runs_confined other (patchTenant_confined _ _ _))
  | patchLimits dto =>
      refine runs_forTenant apart fun casinoGroupId other state => ?_
      exact Contract.Runs.void (runs_confined other (patchLimits_confined _ _ _))
  | suspendEvent eventId reason =>
      exact runs_forTenant apart fun _ other _ =>
        runs_prisma other (suspendEvent_confines _ _ _ _)
  | suspendMarket marketId reason =>
      exact runs_forTenant apart fun _ other _ =>
        runs_prisma other (suspendMarket_confines _ _ _ _)
  | resumeMarket marketId =>
      exact runs_forTenant apart fun _ other _ => runs_prisma other (resumeMarket_confines _ _ _)
  | voidBet betId reason =>
      refine runs_forTenant apart fun casinoGroupId other state => ?_
      exact Contract.Runs.void (runs_betting (runs_voidBet other _ _ _))
  | retryWalletTransmission =>
      refine runs_forTenant apart fun casinoGroupId other state => ?_
      exact Contract.Runs.void (runs_betting (runs_retryWalletSettlementTransmission other _))
  | runEventSettlement eventId =>
      refine runs_checked fun _ _ => runs_forTenant apart fun casinoGroupId other state => ?_
      exact Contract.Runs.void (spares_runSettlementForEvent other _ _)
  | applyProviderResult providerRef homeScore awayScore =>
      refine runs_checked fun _ _ => runs_forTenant apart fun casinoGroupId other state => ?_
      exact Contract.Runs.void (spares_applyManualResultByProviderRef other _ _ _ _)
  | applyEventResult eventId homeScore awayScore =>
      refine runs_checked fun _ _ => runs_forTenant apart fun casinoGroupId other state => ?_
      exact Contract.Runs.void (spares_applyManualResultAndSettle other _ _ _ _)
  | createMerchant dto generated =>
      refine runs_checked fun _ _ => ?_
      exact Contract.Runs.void (spares_createMerchant dto generated)
  | setTenantAccess staffUserId casinoGroupIds =>
      refine runs_checked fun _ passed => ?_
      obtain ⟨free, super⟩ := free_of_assertSuperAdmin passed
      exact absurd super (apart.super free)
  | createOperator casinoGroupId dto fresh =>
      exact Contract.Runs.void (spares_createOperatorAdmin apart casinoGroupId dto fresh)
  | updateOperator staffUserId casinoGroupId dto salt =>
      exact Contract.Runs.void (spares_updateOperatorAdmin apart staffUserId casinoGroupId dto salt)

end Handlers

section Stays

variable {α : Type}

theorem prisma_stays {service : Service α} (retains : service.CallsOnly Retains) :
    (prisma service).CallsOnly Call.Stays := by
  unfold prisma
  exact retains.mapCalls fun query retains => retains.stays

theorem stays_of_confines {detail : Detail} {casinoGroupId : String} {service : Service α}
    (only : service.CallsOnly (Confines detail casinoGroupId)) :
    (prisma service).CallsOnly Call.Stays :=
  prisma_stays (retains_of_confines only)

theorem stays_of_confined {detail : Detail} {casinoGroupId : String} {program : PortalService α}
    (only : program.CallsOnly (Call.Confined detail casinoGroupId)) :
    program.CallsOnly Call.Stays :=
  only.mono fun _ confined => confined.stays

/-- No program on bets touches the catalog, or hands anything to another tenant. -/
theorem betting_stays (program : Betting α) : (betting program).CallsOnly Call.Stays := by
  have stays : ∀ {Reply : Type} (request : BettingCall Reply), (Call.betting request).Stays := by
    intro Reply request choice portal
    obtain ⟨ledger, audit, beside⟩ := World.answer_beside request choice portal.world
    refine ⟨fun tenant stored => ?_, World.answer_owned request choice portal.world, ?_⟩
    · unfold Stored at stored ⊢
      simp only [State.perform]
      rwa [beside]
    · simp only [State.perform]
      rw [beside]
      exact .refl _
  induction program with
  | done outcome => trivial
  | await request next ih => exact ⟨stays request, ih⟩

theorem applyManualResultAndSettle_stays (runtime : Text.Runtime)
    (casinoGroupId eventId : String) (homeScore awayScore : ℤ) (staffUserId : String) :
    (Portal.applyManualResultAndSettle runtime casinoGroupId eventId homeScore awayScore
      staffUserId).CallsOnly Call.Stays := by
  have reads : ∀ {α : Type} (look : Database → α), (prisma (read look)).CallsOnly Call.Stays :=
    fun look => prisma_stays (read_retains look)
  have records : ∀ action reason after, (prisma (recordAudit (settlementEntry casinoGroupId
      eventId staffUserId action reason after))).CallsOnly Call.Stays :=
    fun _ _ _ => prisma_stays (recordAudit_retains _)
  refine (reads _).bind fun openBets => ?_
  split
  · trivial
  refine (reads _).bind fun event => ?_
  cases event with
  | none => trivial
  | some event =>
      refine CallsOnly.bind (stays_of_confines (finalizeEventResult_confines casinoGroupId _ _ _))
        fun updatedEventId => ?_
      cases updatedEventId with
      | none => trivial
      | some _ =>
          refine (records _ _ _).bind fun _ => CallsOnly.bind (betting_stays _) fun counts => ?_
          exact (records _ _ _).bind fun _ => trivial

theorem updateOperatorAdmin_stays (runtime : Text.Runtime) (crypto : Crypto)
    (actor : StaffContext) (staffUserId casinoGroupId : String)
    (dto : StaffAuth.UpdateOperatorStaffDto) (salt : String) :
    (staffed (StaffAuth.updateOperatorAdmin runtime crypto actor staffUserId casinoGroupId dto
      salt)).CallsOnly Call.Stays := by
  have queried : ∀ {α : Type} {service : Service α}, service.CallsOnly Retains →
      (StaffAuth.queries service).CallsOnly fun request =>
        (Call.database (staffQuery request)).Stays := by
    intro α service only
    unfold StaffAuth.queries
    exact only.mapCalls fun query retains => retains.stays
  have finds : (StaffAuth.issue (.findUser staffUserId)).CallsOnly fun request =>
      (Call.database (staffQuery request)).Stays :=
    (callsOnly_call _).mpr (Retains.stays fun db => .refl db)
  suffices only : (StaffAuth.updateOperatorAdmin runtime crypto actor staffUserId casinoGroupId
      dto salt).CallsOnly fun request => (Call.database (staffQuery request)).Stays by
    unfold staffed
    refine CallsOnly.mapCalls ?_ only
    exact fun request stays => stays
  refine CallsOnly.bind (callsOnly_done _) fun _ => CallsOnly.bind (queried ?_) fun _ => ?_
  · have only : (assertCasinoGroupAccess actor casinoGroupId).CallsOnly
        (Confines .full casinoGroupId) := assertCasinoGroupAccess_confines _ _ _
    exact retains_of_confines only
  dsimp only
  split
  · trivial
  refine finds.bind fun existing => ?_
  cases existing with
  | none => trivial
  | some existing =>
      dsimp only
      split
      · trivial
      refine CallsOnly.bind ((callsOnly_call _).mpr (updateUser_retains _ _ _).stays) fun _ => ?_
      refine CallsOnly.bind (queried (recordAudit_retains _)) fun _ => finds.bind fun updated => ?_
      cases updated <;> trivial

theorem forTenant_stays {staff : StaffContext} {requested : Option String}
    {service : String → PortalService Unit}
    (stays : ∀ casinoGroupId, (service casinoGroupId).CallsOnly Call.Stays) :
    (forTenant staff requested service).CallsOnly Call.Stays := by
  have resolved : (resolveCasinoGroupId staff requested).CallsOnly (Confines .full "") :=
    resolveCasinoGroupId_confines "" staff requested
  exact (stays_of_confines resolved).bind stays

theorem checked_stays {result : Except Failure α} {next : α → PortalService Unit}
    (rest : ∀ value, (next value).CallsOnly Call.Stays) :
    (checked result >>= next).CallsOnly Call.Stays :=
  CallsOnly.bind (callsOnly_done result) rest

/-- No request takes anything from a tenant that is there. -/
theorem handler_stays (env : Environment) (staff : StaffContext) (requested : Option String)
    (route : Route) : (route.handler env staff requested).CallsOnly Call.Stays := by
  cases route with
  | updateLeagues leagues =>
      refine forTenant_stays fun casinoGroupId => ?_
      have only : (Product.updateLeagues env.ODDS_API_SPORT_KEYS casinoGroupId leagues
          staff).CallsOnly (Confines .full casinoGroupId) := updateLeagues_confines _ _ _ _
      exact (stays_of_confines only).void
  | patchTenant dto =>
      refine forTenant_stays fun casinoGroupId => ?_
      have only : (caching (CasinoGroups.patchTenant casinoGroupId dto
          staff.staffUserId)).CallsOnly (Call.Confined .full casinoGroupId) :=
        patchTenant_confined _ _ _
      exact (stays_of_confined only).void
  | patchLimits dto =>
      refine forTenant_stays fun casinoGroupId => ?_
      have only : (Portal.patchLimits casinoGroupId dto staff.staffUserId).CallsOnly
          (Call.Confined .full casinoGroupId) := patchLimits_confined _ _ _
      exact (stays_of_confined only).void
  | suspendEvent eventId reason =>
      refine forTenant_stays fun casinoGroupId => ?_
      have only : (Trading.suspendEvent casinoGroupId eventId reason staff.staffUserId).CallsOnly
          (Confines .full casinoGroupId) := suspendEvent_confines _ _ _ _
      exact stays_of_confines only
  | suspendMarket marketId reason =>
      refine forTenant_stays fun casinoGroupId => ?_
      have only : (Trading.suspendMarket casinoGroupId marketId reason
          staff.staffUserId).CallsOnly (Confines .full casinoGroupId) :=
        suspendMarket_confines _ _ _ _
      exact stays_of_confines only
  | resumeMarket marketId =>
      refine forTenant_stays fun casinoGroupId => ?_
      have only : (Trading.resumeMarket casinoGroupId marketId staff.staffUserId).CallsOnly
          (Confines .full casinoGroupId) := resumeMarket_confines _ _ _
      exact stays_of_confines only
  | voidBet betId reason => exact forTenant_stays fun _ => (betting_stays _).void
  | retryWalletTransmission => exact forTenant_stays fun _ => (betting_stays _).void
  | runEventSettlement eventId =>
      refine checked_stays fun _ => forTenant_stays fun casinoGroupId => CallsOnly.void ?_
      refine (betting_stays _).bind fun row => ?_
      cases row with
      | none => trivial
      | some row =>
          dsimp only
          split
          · trivial
          · exact (betting_stays _).bind fun counts =>
              (prisma_stays (recordAudit_retains _)).bind fun _ => trivial
  | applyProviderResult providerRef homeScore awayScore =>
      refine checked_stays fun _ => forTenant_stays fun casinoGroupId => CallsOnly.void ?_
      refine (prisma_stays (read_retains _)).bind fun event => ?_
      cases event with
      | none => trivial
      | some event => exact applyManualResultAndSettle_stays _ _ _ _ _ _
  | applyEventResult eventId homeScore awayScore =>
      exact checked_stays fun _ => forTenant_stays fun _ =>
        (applyManualResultAndSettle_stays _ _ _ _ _ _).void
  | createMerchant dto generated =>
      exact checked_stays fun _ => (prisma_stays (createMerchant_retains dto staff generated)).void
  | setTenantAccess staffUserId casinoGroupIds =>
      exact checked_stays fun _ =>
        (prisma_stays (setPlatformAdminTenantAccess_retains _ _ _)).void
  | createOperator casinoGroupId dto fresh =>
      have only : (StaffAdminService.createOperatorAdmin env.runtime env.crypto staff casinoGroupId
          dto fresh).CallsOnly (Confines .full casinoGroupId) :=
        createOperatorAdmin_confines _ _ _ _
      exact (stays_of_confines only).void
  | updateOperator staffUserId casinoGroupId dto salt =>
      exact (updateOperatorAdmin_stays _ _ _ _ _ _ _).void

theorem request_stays (env : Environment) (request : Request) :
    (request.program env).CallsOnly Call.Stays := by
  unfold Request.program
  cases request.actor env with
  | error failure => trivial
  | ok staff => exact handler_stays env staff _ _

end Stays

section Office

/-- Requests of members of staff, and programs on bets, all under way at once. -/
def office (env : Environment) (requests : List Request) (traffic : List (Betting Unit))
    (portal : State) : Config machine :=
  ⟨portal, requests.map (Request.program env) ++ traffic.map betting⟩

/-- Whoever makes the request is a stranger to the tenant. -/
def Request.Foreign (env : Environment) (tenant : String) (request : Request) (db : Database) :
    Prop :=
  ∀ staff, request.actor env = .ok staff → Stranger staff tenant db

variable {env : Environment} {requests : List Request} {traffic : List (Betting Unit)}
  {portal : State} {tenant : String} {request : Request} {index : ℕ}

theorem office_stays : ∀ program ∈ (office env requests traffic portal).pool,
    program.CallsOnly Call.Stays := by
  intro program member
  rcases List.mem_append.mp member with asked | started
  · obtain ⟨request, _, rfl⟩ := List.mem_map.mp asked
    exact request_stays env request
  · obtain ⟨program, _, rfl⟩ := List.mem_map.mp started
    exact betting_stays program

/-- A stranger's request is safe where it starts. -/
theorem office_watches (stored : Stored tenant portal.world.db)
    (made : requests[index]? = some request)
    (apart : ∀ staff, request.actor env = .ok staff → Apart staff tenant) :
    (sparing request.route.detail tenant (request.Foreign env tenant)).Watches Call.Stays index
      (office env requests traffic portal) where
  sound := stored
  safe program found := by
    have first : (office env requests traffic portal).pool[index]? =
        some (request.program env) := by
      have bound := (List.getElem?_eq_some_iff.mp made).1
      unfold office
      dsimp only
      rw [List.getElem?_append_left (by simpa using bound), List.getElem?_map, made]
      rfl
    rw [first] at found
    rw [← Option.some.inj found]
    unfold Request.program
    cases actor : request.actor env with
    | error failure => trivial
    | ok staff =>
        have entails : (sparing request.route.detail tenant (Stranger staff tenant)).Entails
            (sparing request.route.detail tenant (request.Foreign env tenant)) :=
          ⟨fun _ _ _ waited => waited, fun sound => sound, fun _ _ proper => proper,
            fun _ _ _ foreign => foreign staff actor⟩
        exact Contract.Safe.entails entails
          (spares_handler (apart staff actor) request.casinoGroupId request.route)
  others other program _ found := office_stays program (List.mem_of_getElem? found)

theorem watches_run {known : Database → Prop} {detail : Detail} {config : Config machine}
    {moves : List (Move machine)}
    (watches : (sparing detail tenant known).Watches Call.Stays index config)
    (followed : config.Follows (fun (config : Config machine) _ _ => known config.state.world.db)
      moves) :
    (sparing detail tenant known).Watches Call.Stays index (config.run moves) := by
  refine Config.run_preserves _ _ (fun config move watches permitted => ?_) watches followed
  refine Contract.Watches.step sparing_stable (fun _ _ _ _ guarded => guarded) ?_ watches permitted
  intro config choice _ request stays _ stored
  have kept := stays choice config.state
  exact ⟨kept.groups tenant stored, fun _ => ⟨kept.owned, kept.members⟩⟩

/-- Whatever else goes on, a request changes something of a tenant only if it is made by a
member of staff who had access to the tenant at some time. -/
theorem changed_by_access (env : Environment) (requests : List Request)
    (traffic : List (Betting Unit)) (portal : State) (tenant : String) (request : Request)
    (index : ℕ) (moves : List (Move machine)) (choice : Choice)
    (stored : Stored tenant portal.world.db) (made : requests[index]? = some request)
    (changed :
      let before := (office env requests traffic portal).run moves
      (before.step (.run index choice)).state.holdings request.route.detail tenant ≠
        before.state.holdings request.route.detail tenant) :
    ∃ staff, request.actor env = .ok staff ∧ ∃ state,
      (office env requests traffic portal).Passes moves state ∧
        HasAccess staff tenant state.world.db := by
  by_contra never
  simp only [not_exists, not_and] at never
  have foreign : ∀ earlier later, moves = earlier ++ later → request.Foreign env tenant
      ((office env requests traffic portal).run earlier).state.world.db :=
    fun earlier later same staff actor => never staff actor _ ⟨earlier, later, same, rfl⟩
  have apart : ∀ staff, request.actor env = .ok staff → Apart staff tenant :=
    fun staff actor => Stranger.apart stored (foreign [] moves rfl staff actor)
  have followed : (office env requests traffic portal).Follows
      (fun (config : Config machine) _ _ => request.Foreign env tenant config.state.world.db)
      moves := by
    apply Config.follows_of_prefixes
    intro earlier move later same
    cases move with
    | occur event => trivial
    | run other choice =>
        simp only [Config.Permits]
        split
        · exact foreign earlier _ same
        · trivial
  have watches := watches_run (office_watches stored made apart) followed
  apply changed
  rcases Config.step_cases ((office env requests traffic portal).run moves)
    (.run index choice) with same | ⟨_, _, _, _, next, same, waiting⟩ | ⟨event, impossible⟩
  · rw [same]
  · obtain ⟨rfl, rfl⟩ := Move.run.inj same
    rw [Config.step_run waiting]
    exact watches.proper sparing_stable waiting choice
  · cases impossible

end Office

section Tokens

open StaffJwtService

theorem roleOf_text (role : StaffRole) : roleOf (.text role.text) = some role := by
  cases role <;> decide +kernel

theorem roleOf_rolesJson (roles : List StaffRole) : (rolesJson roles).filterMap roleOf = roles := by
  unfold rolesJson
  rw [List.filterMap_map]
  have same : roleOf ∘ (fun role : StaffRole => Jwt.Json.text role.text) = some :=
    funext roleOf_text
  rw [same, List.filterMap_some]

theorem groupOf_groupJson (casinoGroupId : Option String) :
    groupOf (groupJson casinoGroupId) = casinoGroupId := by
  cases casinoGroupId <;> rfl

theorem find_permission (permission : StaffPermission) :
    STAFF_PERMISSIONS.find? (fun other => other.text = permission.text) = some permission := by
  cases permission <;> decide +kernel

theorem permission_text_inj {first second : StaffPermission} (same : first.text = second.text) :
    first = second := by
  have found := find_permission first
  rw [same, find_permission second] at found
  exact (Option.some.inj found).symm

theorem hasPermission_iff {permissions : List StaffPermission} {required : StaffPermission} :
    hasPermission (permissionsJson permissions) required = true ↔ required ∈ permissions := by
  simp only [hasPermission, permissionsJson, List.any_map, List.any_eq_true, Function.comp_apply,
    decide_eq_true_eq]
  constructor
  · rintro ⟨permission, member, same⟩
    exact permission_text_inj same ▸ member
  · intro member
    exact ⟨required, member, rfl⟩

/-- A request with a token that was minted for a member is one of that member, as long as the
token lasts, if the roles of the member permit it. -/
theorem actor_of_minted {env : Environment} {request : Request} {text : String} {user : StaffUser}
    {issued seconds : ℤ} {access : AccessToken env.jwt.toScheme}
    (bearer : StaffAuthGuard.bearerToken env.runtime request.authorization = some text)
    (parsed : env.jwt.parse text = some access.accessToken)
    (minted : mintAccessToken env.jwt.toScheme env.tokens user issued = some access)
    (lasts : env.jwt.seconds env.tokens.STAFF_ACCESS_TTL = some seconds)
    (intime : Auth.seconds request.time < issued + seconds) :
    request.actor env =
      if request.route.permission ∈ permissionsForRoles user.roles then
        .ok ⟨user.id, user.casinoGroupId, user.roles⟩
      else .error (.forbidden ("Missing permission: " ++ request.route.permission.text)) := by
  have verified : StaffAuthGuard.session env.jwt env.tokens text request.time =
      .ok (identity user) := by
    unfold StaffAuthGuard.session
    rw [parsed]
    exact verifyAccessToken_mint minted lasts intime
  have context : (identity user).context = ⟨user.id, user.casinoGroupId, user.roles⟩ := by
    unfold VerifiedStaff.context identity
    rw [groupOf_groupJson, roleOf_rolesJson]
  unfold Request.actor StaffAuthGuard.canActivate
  rw [bearer]
  dsimp only
  rw [verified]
  by_cases permitted : request.route.permission ∈ permissionsForRoles user.roles
  · rw [if_pos permitted, ← context]
    have held : hasPermission (identity user).permissions request.route.permission = true :=
      hasPermission_iff.mpr permitted
    simp only [bind, Except.bind, held, if_true]
    rfl
  · rw [if_neg permitted]
    have missing : ¬ hasPermission (identity user).permissions request.route.permission = true :=
      mt hasPermission_iff.mp permitted
    simp only [bind, Except.bind, missing]
    rfl

end Tokens

section Sample

/-- A platform admin, who is granted one of the two tenants. -/
def admin : StaffUser := ⟨"admin", "admin@ops", "", none, [.platformAdmin], true⟩

def adminClaims : Jwt.Claims := Jwt.Scheme.stamped (StaffJwtService.claims admin) 0 900

def adminFormat : Jwt.Format :=
  { Auth.openFormat with
    parse := fun text => if text = "token" then some ("staff", .claims adminClaims) else none }

def environment : Environment :=
  ⟨adminFormat, ⟨"session", "30m", "staff", "15m"⟩, Text.asciiRuntime, plainCrypto, []⟩

def raiseLimit : Request :=
  ⟨some "Bearer token", 0, some "acme", .patchLimits { minStake := some (some "5") }⟩

def resumeElsewhere : Request := ⟨some "Bearer token", 0, some "betzone", .resumeMarket "winner"⟩

def twoTenants : Config machine :=
  office environment [raiseLimit, resumeElsewhere] []
    ⟨⟨grantedDatabase, 0, 0, ⟨fun _ _ => 0, [], []⟩⟩, .empty, .empty⟩

/-- Up to the call that stores the limit. -/
def untilStored : List (Move machine) :=
  [.run 0 (Sample.plainly ""), .run 1 (Sample.plainly ""), .run 0 (Sample.plainly ""),
    .run 1 (Sample.plainly ""), .run 0 (Sample.plainly "")]

theorem raiseLimit_actor :
    raiseLimit.actor environment = .ok ⟨"admin", none, [.platformAdmin]⟩ := by
  have bearer : StaffAuthGuard.bearerToken environment.runtime raiseLimit.authorization =
      some "token" := by decide +kernel
  have minted : StaffJwtService.mintAccessToken adminFormat.toScheme environment.tokens admin 0 =
      some ⟨("staff", .claims adminClaims), "15m"⟩ := rfl
  have lasts : inMinutes "15m" = some 900 := rfl
  exact (actor_of_minted bearer rfl minted lasts (by decide)).trans (if_pos (by decide))

theorem limit_changed_by_access :
    ((twoTenants.run untilStored).step (.run 0 (Sample.plainly "limit"))).state.holdings .full
        "acme" ≠ (twoTenants.run untilStored).state.holdings .full "acme" ∧
      ∃ state, twoTenants.Passes untilStored state ∧
        HasAccess ⟨"admin", none, [.platformAdmin]⟩ "acme" state.world.db := by
  have changed : ((twoTenants.run untilStored).step
      (.run 0 (Sample.plainly "limit"))).state.holdings .full "acme" ≠
        (twoTenants.run untilStored).state.holdings .full "acme" := by
    intro same
    have limits := congrArg (fun holdings => (holdings.limit ("GLOBAL", "")).isSome) same
    exact absurd limits (by decide +kernel)
  obtain ⟨staff, actor, passed⟩ := changed_by_access environment [raiseLimit, resumeElsewhere] []
    ⟨⟨grantedDatabase, 0, 0, ⟨fun _ _ => 0, [], []⟩⟩, .empty, .empty⟩ "acme" raiseLimit 0
    untilStored (Sample.plainly "limit") rfl rfl changed
  rw [raiseLimit_actor] at actor
  obtain rfl := Except.ok.inj actor
  exact ⟨changed, passed⟩

end Sample

end SportsBetting.Portal
