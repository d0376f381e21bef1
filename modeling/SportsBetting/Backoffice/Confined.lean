import SportsBetting.Backoffice.Accounted
import SportsBetting.Backoffice.Holdings

/-!
# What each mutation is confined to

A mutation for one tenant changes nothing of the others. Settling an event changes how the
deliveries of the others stand, and clears the notes on their bets.
-/

namespace SportsBetting.Portal

open Async Program Trading

section Calls

variable {detail : Detail} {casinoGroupId : String} {Reply α : Type}

/-- Whatever the database is, the query is one for this tenant. -/
def Confines (detail : Detail) (casinoGroupId : String) (query : Query Database Failure Reply) :
    Prop :=
  ∀ db, Confined detail casinoGroupId db (query db).2

/-- Whatever the database is, the query takes nothing from a tenant. -/
def Retains (query : Query Database Failure Reply) : Prop := ∀ db, Stays db (query db).2

theorem Confines.retains {query : Query Database Failure Reply}
    (confines : Confines detail casinoGroupId query) : Retains query :=
  fun db => (confines db).toStays

theorem retains_of_confines {service : Service α}
    (only : service.CallsOnly (Confines detail casinoGroupId)) : service.CallsOnly Retains :=
  only.mono fun _ => Confines.retains

/-- However it is answered, the call takes nothing from a tenant. -/
def Call.Stays {Reply : Type} (request : Call Reply) : Prop :=
  ∀ choice portal,
    SportsBetting.Portal.Stays portal.world.db (State.perform choice request portal).2.world.db

/-- However it is answered, the call leaves everything of the other tenants. -/
structure Call.Confined (detail : Detail) (casinoGroupId : String) {Reply : Type}
    (request : Call Reply) : Prop where
  stays : request.Stays
  others : ∀ choice portal tenant, tenant ≠ casinoGroupId →
    (State.perform choice request portal).2.holdings detail tenant = portal.holdings detail tenant

/-- The call is carried out, or leaves everything as it is. -/
theorem perform_database (query : Query Database Failure Reply) (choice : Choice)
    (portal : State) :
    (State.perform choice (.database query) portal).2 = portal ∨
      (State.perform choice (.database query) portal).2 =
        { portal with world.db := (query portal.world.db).2 } := by
  simp only [State.perform]
  cases choice.fault with
  | refused => exact .inl rfl
  | none => exact .inr rfl
  | unacknowledged => exact .inr rfl

theorem Retains.stays {query : Query Database Failure Reply} (retains : Retains query) :
    (Call.database query).Stays := by
  intro choice portal
  rcases perform_database query choice portal with same | carried
  · rw [same]
    exact .refl _
  · rw [carried]
    exact retains portal.world.db

theorem Confines.confined {query : Query Database Failure Reply}
    (confines : Confines detail casinoGroupId query) :
    (Call.database query).Confined detail casinoGroupId where
  stays := confines.retains.stays
  others choice portal tenant apart := by
    rcases perform_database query choice portal with same | carried
    · rw [same]
    · rw [carried]
      exact holdings_of_rows ((confines portal.world.db).others tenant apart) rfl

theorem prisma_confined {service : Service α}
    (only : service.CallsOnly (Confines detail casinoGroupId)) :
    (prisma service).CallsOnly (Call.Confined detail casinoGroupId) := by
  unfold prisma
  exact only.mapCalls fun query confines => confines.confined

theorem cache_confined (call : CasinoGroups.CacheCall Reply) :
    (Call.cache call).Confined detail casinoGroupId :=
  ⟨fun _ _ => .refl _, fun _ _ _ _ => rfl⟩

theorem read_confines (look : Database → α) :
    (read look).CallsOnly (Confines detail casinoGroupId) :=
  (callsOnly_call _).mpr fun db => .refl db

theorem write_confines {change : Database → Database}
    (confined : ∀ db, SportsBetting.Portal.Confined detail casinoGroupId db (change db)) :
    (write change).CallsOnly (Confines detail casinoGroupId) :=
  (callsOnly_call _).mpr confined

theorem attempt_confines {change : Database → Except Failure Database}
    (confined : ∀ db after, change db = .ok after →
      SportsBetting.Portal.Confined detail casinoGroupId db after) :
    (attempt change).CallsOnly (Confines detail casinoGroupId) := by
  refine (callsOnly_call _).mpr fun db => ?_
  unfold Query.attempt
  cases changed : change db with
  | error failure => exact .refl db
  | ok after => exact confined db after changed

theorem transaction_confines {change : Database → Except Failure (α × Database)}
    (confined : ∀ db reply after, change db = .ok (reply, after) →
      SportsBetting.Portal.Confined detail casinoGroupId db after) :
    (transaction change).CallsOnly (Confines detail casinoGroupId) := by
  refine (callsOnly_call _).mpr fun db => ?_
  unfold Query.transaction
  cases changed : change db with
  | error failure => exact .refl db
  | ok result => exact confined db result.1 result.2 changed

theorem recordAudit_confines {entry : AuditEntry}
    (named : ∀ owner, entry.casinoGroupId = some owner → owner = casinoGroupId) :
    (recordAudit entry).CallsOnly (Confines detail casinoGroupId) :=
  CallsOnly.handle (write_confines fun db => .record named db) fun _ => trivial

theorem read_retains (look : Database → α) : (read look).CallsOnly Retains :=
  (callsOnly_call _).mpr fun db => .refl db

theorem recordAudit_retains (entry : AuditEntry) : (recordAudit entry).CallsOnly Retains := by
  refine CallsOnly.handle ((callsOnly_call _).mpr fun db => ?_) fun _ => trivial
  exact ⟨fun _ stored => stored, .refl _, .refl _⟩

/-- An entry of the tenant itself. -/
theorem named_self : ∀ owner, some casinoGroupId = some owner → owner = casinoGroupId :=
  fun _ same => (Option.some.inj same).symm

end Calls

section Mutations

variable {detail : Detail}

theorem assertCasinoGroupAccess_confines (casinoGroupId requested : String)
    (staff : StaffContext) :
    (StaffScopeService.assertCasinoGroupAccess staff requested).CallsOnly
      (Confines detail casinoGroupId) := by
  refine (read_confines _).bind fun group => ?_
  cases group with
  | none => trivial
  | some group =>
      dsimp only
      split
      · split <;> trivial
      · split
        · trivial
        · split
          · trivial
          · split
            · refine (read_confines _).bind fun grant => ?_
              cases grant <;> trivial
            · trivial

theorem resolveCasinoGroupId_confines (casinoGroupId : String) (staff : StaffContext)
    (requested : Option String) :
    (StaffScopeService.resolveCasinoGroupId staff requested).CallsOnly
      (Confines detail casinoGroupId) := by
  unfold StaffScopeService.resolveCasinoGroupId
  split
  · split
    · split <;> trivial
    · trivial
  · split
    · trivial
    · exact (assertCasinoGroupAccess_confines casinoGroupId _ staff).bind fun _ => trivial

theorem upsertOffering_confined (casinoGroupId leagueId : String)
    (enabled platformLocked operatorOnly : Bool) (db : Database) :
    Confined detail casinoGroupId db
      (Product.upsertOffering db casinoGroupId leagueId enabled platformLocked operatorOnly) := by
  refine .offering ?_ db
  split
  · rfl
  · next row stored =>
      have key := (Table.get?_eq_some_iff.mp stored).2
      split <;> exact congrArg Prod.fst key

theorem listLeagues_confines (configured : List String) (casinoGroupId other : String) :
    (Product.listLeagues configured other).CallsOnly (Confines detail casinoGroupId) := by
  refine CallsOnly.bind ((read_confines _).bind fun group => ?_) fun _ =>
    CallsOnly.bind ((read_confines _).bind fun _ => trivial) fun keys => ?_
  · cases group <;> trivial
  · split
    · trivial
    · exact read_confines _

theorem persistOffering_confines (input : Product.Offering) :
    (Product.persistOffering input).CallsOnly (Confines detail input.casinoGroupId) := by
  refine (write_confines fun db => upsertOffering_confined _ _ _ _ _ db).bind fun _ => ?_
  split
  · exact recordAudit_confines named_self
  · trivial

theorem updateLeague_confines (casinoGroupId : String) (allowedKeys : List String)
    (staff : StaffContext) (item : Product.LeagueOfferingDto) :
    (Product.updateLeague casinoGroupId allowedKeys staff item).CallsOnly
      (Confines detail casinoGroupId) := by
  have persists : ∀ input : Product.Offering, input.casinoGroupId = casinoGroupId →
      (Product.persistOffering input).CallsOnly (Confines detail casinoGroupId) := by
    rintro input rfl
    exact persistOffering_confines input
  refine (read_confines _).bind fun league => ?_
  rcases league with _ | ⟨league, sportActive⟩
  · trivial
  dsimp only
  split
  · trivial
  refine (read_confines _).bind fun existing => ?_
  split
  · split
    · trivial
    · split
      · trivial
      · exact persists _ rfl
  · split
    · trivial
    · exact persists _ rfl

theorem updateLeagues_confines (configured : List String) (casinoGroupId : String)
    (leagues : List Product.LeagueOfferingDto) (staff : StaffContext) :
    (Product.updateLeagues configured casinoGroupId leagues staff).CallsOnly
      (Confines detail casinoGroupId) := by
  refine CallsOnly.bind ((read_confines _).bind fun group => ?_) fun _ =>
    CallsOnly.bind ((read_confines _).bind fun _ => trivial) fun keys => ?_
  · cases group <;> trivial
  · refine CallsOnly.bind (CallsOnly.forM ?_ leagues) fun _ =>
      listLeagues_confines configured casinoGroupId casinoGroupId
    exact fun item => updateLeague_confines casinoGroupId keys staff item

theorem suspendEvent_confines (casinoGroupId eventId reason staffUserId : String) :
    (Trading.suspendEvent casinoGroupId eventId reason staffUserId).CallsOnly
      (Confines detail casinoGroupId) := by
  refine CallsOnly.bind ((read_confines _).bind fun event => ?_) fun event => ?_
  · cases event <;> trivial
  · split
    · trivial
    · refine (write_confines fun db => ?_).bind fun _ => recordAudit_confines named_self
      exact .of_shared rfl rfl rfl rfl rfl

theorem assertTenantMarket_confines (casinoGroupId marketId : String) :
    (assertTenantMarket casinoGroupId marketId).CallsOnly (Confines detail casinoGroupId) := by
  refine (read_confines _).bind fun market => ?_
  cases market <;> trivial

theorem setMarketRows_confined (casinoGroupId marketId : String) (market : MarketStatus)
    (selection : SelectionStatus) (db : Database) :
    Confined detail casinoGroupId db (setMarketRows db marketId market selection) :=
  .of_shared rfl rfl rfl rfl rfl

theorem suspendMarket_confines (casinoGroupId marketId reason staffUserId : String) :
    (Trading.suspendMarket casinoGroupId marketId reason staffUserId).CallsOnly
      (Confines detail casinoGroupId) := by
  refine (assertTenantMarket_confines casinoGroupId marketId).bind fun found => ?_
  obtain ⟨market, _⟩ := found
  dsimp only
  split
  · trivial
  · exact (write_confines fun db => setMarketRows_confined _ _ _ _ db).bind fun _ =>
      recordAudit_confines named_self

theorem resumeMarket_confines (casinoGroupId marketId staffUserId : String) :
    (Trading.resumeMarket casinoGroupId marketId staffUserId).CallsOnly
      (Confines detail casinoGroupId) := by
  refine (assertTenantMarket_confines casinoGroupId marketId).bind fun found => ?_
  obtain ⟨_, event⟩ := found
  dsimp only
  split
  · trivial
  · exact (write_confines fun db => setMarketRows_confined _ _ _ _ db).bind fun _ =>
      recordAudit_confines named_self

theorem updateGroup_confined {casinoGroupId : String} {dto : CasinoGroups.PatchTenantDto}
    {db after : Database} {tenant : CasinoGroups.Tenant}
    (updated : CasinoGroups.updateGroup casinoGroupId dto db = .ok (tenant, after)) :
    Confined detail casinoGroupId db after := by
  unfold CasinoGroups.updateGroup at updated
  split at updated
  · cases updated
  · next group stored =>
      obtain ⟨_, rfl⟩ := Prod.mk.inj (Except.ok.inj updated)
      have own : (CasinoGroups.patched dto group).id = casinoGroupId :=
        (Table.get?_eq_some_iff.mp stored).2
      exact Confined.group own db

theorem patchTenant_confined (casinoGroupId : String) (dto : CasinoGroups.PatchTenantDto)
    (staffUserId : String) :
    (caching (CasinoGroups.patchTenant casinoGroupId dto staffUserId)).CallsOnly
      (Call.Confined detail casinoGroupId) := by
  have queries : ∀ {α : Type} {service : Service α},
      service.CallsOnly (Confines detail casinoGroupId) →
      (CasinoGroups.prisma service).CallsOnly fun request =>
        (Call.ofCache request).Confined detail casinoGroupId := by
    intro α service only
    unfold CasinoGroups.prisma
    exact only.mapCalls fun query confines => confines.confined
  suffices only : (CasinoGroups.patchTenant casinoGroupId dto staffUserId).CallsOnly
      fun request => (Call.ofCache request).Confined detail casinoGroupId by
    unfold caching
    refine CallsOnly.mapCalls ?_ only
    exact fun request confined => confined
  refine CallsOnly.bind (queries ?_) fun before => ?_
  · refine (read_confines _).bind fun group => ?_
    cases group <;> trivial
  refine CallsOnly.bind (queries (transaction_confines fun _ _ _ => updateGroup_confined))
    fun updated => ?_
  refine CallsOnly.bind ((callsOnly_call _).mpr (cache_confined _)) fun _ => ?_
  exact CallsOnly.bind (queries (recordAudit_confines named_self)) fun _ => trivial

/-- The limits of the tenant are put under its own key. -/
theorem upsertLimit_others {casinoGroupId freshId tenant : String} {patch : LimitPatch}
    {db : Database} {limits after : RiskLimits} {limit : RiskLimit}
    (upserted : upsertLimit casinoGroupId patch freshId db limits = .ok (limit, after))
    (apart : tenant ≠ casinoGroupId) (scope : String × String) :
    after.get? (tenant, scope) = limits.get? (tenant, scope) := by
  have key := (upsertLimit_ok upserted).2
  obtain ⟨old, _, upserted⟩ := Except.bind_eq_ok.mp upserted
  obtain ⟨patched, _, upserted⟩ := Except.bind_eq_ok.mp upserted
  obtain ⟨rfl, rfl⟩ := Prod.mk.inj (Except.pure_eq_ok.mp upserted)
  rw [Table.get?_put, if_neg]
  intro same
  exact apart ((congrArg Prod.fst same).symm.trans (congrArg Prod.fst key))

theorem upsertLimit_confined (casinoGroupId : String) (patch : LimitPatch) :
    (Call.limits fun freshId db =>
      Query.transaction (upsertLimit casinoGroupId patch freshId db)).Confined detail
        casinoGroupId where
  stays _ _ := .refl _
  others choice portal tenant apart := by
    have kept : ∀ scope, ((Query.transaction (upsertLimit casinoGroupId patch choice.freshId
        portal.world.db)) portal.limits).2.get? (tenant, scope) =
          portal.limits.get? (tenant, scope) := by
      intro scope
      unfold Query.transaction
      cases upserted : upsertLimit casinoGroupId patch choice.freshId portal.world.db
          portal.limits with
      | error failure => rfl
      | ok result => exact upsertLimit_others upserted apart scope
    simp only [State.perform, State.holdings]
    cases choice.fault with
    | refused => rfl
    | none => simp only [kept]
    | unacknowledged => simp only [kept]

theorem patchLimits_confined (casinoGroupId : String) (dto : PatchRiskLimitsDto)
    (staffUserId : String) :
    (Portal.patchLimits casinoGroupId dto staffUserId).CallsOnly
      (Call.Confined detail casinoGroupId) := by
  have reads : (Call.limits fun _ _ => Query.read fun limits : RiskLimits =>
      limits.get? (globalKey casinoGroupId)).Confined detail casinoGroupId := by
    refine ⟨fun _ _ => .refl _, fun choice portal tenant _ => ?_⟩
    simp only [State.perform, State.holdings]
    cases choice.fault <;> rfl
  refine CallsOnly.bind ((callsOnly_call _).mpr reads) fun before => ?_
  split
  · trivial
  · refine CallsOnly.bind ((callsOnly_call _).mpr (upsertLimit_confined casinoGroupId _))
      fun limit => ?_
    refine CallsOnly.bind (prisma_confined (recordAudit_confines ?_)) fun _ => trivial
    exact named_self

/-- Of the other tenants, only notes on their bets are cleared. -/
theorem finalizeEventResult_confines (casinoGroupId providerRef : String)
    (homeScore awayScore : ℤ) :
    (Ingestion.finalizeEventResult providerRef homeScore awayScore).CallsOnly
      (Confines .core casinoGroupId) := by
  refine (read_confines _).bind fun event => ?_
  cases event with
  | none => trivial
  | some event =>
      refine CallsOnly.bind (attempt_confines fun db after done => ?_) fun _ => ?_
      · unfold Ingestion.endEvent at done
        split at done
        · cases done
        · obtain rfl := Except.ok.inj done
          exact .of_shared rfl rfl rfl rfl rfl
      · refine CallsOnly.bind (CallsOnly.bind (write_confines fun db => ?_) fun _ =>
          write_confines fun db => ?_) fun _ => ?_
        · exact .of_shared rfl rfl rfl rfl rfl
        · exact .of_shared rfl rfl rfl rfl rfl
        · exact (write_confines fun db => .notes event.providerRef db).bind fun _ => trivial

end Mutations

section Accounts

variable {detail : Detail} {db after : Database}

theorem insertGroup_confined {group : CasinoGroup}
    (inserted : Merchants.insertGroup db group = .ok after) :
    db.catalog.casinoGroups.get? group.id = none ∧ Confined detail group.id db after := by
  unfold Merchants.insertGroup at inserted
  dsimp only at inserted
  split at inserted
  · cases inserted
  · next casinoGroups stored =>
      obtain rfl := Except.ok.inj inserted
      have made : db.catalog.casinoGroups.insert? group = some casinoGroups := by
        split at stored
        · cases stored
        · exact stored
      refine ⟨Table.get?_eq_none_iff.mpr (Table.insert?_spec made).1, ?_, ?_⟩
      · refine ⟨fun tenant there => ?_, .refl _, .refl _⟩
        unfold Stored
        rw [Table.get?_of_insert? made]
        split
        · rfl
        · exact there
      · intro tenant apart
        unfold tenantRows
        dsimp only
        rw [Table.get?_of_insert? made, if_neg (Ne.symm apart)]

theorem enableLeagues_confined (casinoGroupId : String) (offeredKeys leagues : List String)
    (db : Database) :
    Confined detail casinoGroupId db
      (Merchants.enableLeagues casinoGroupId offeredKeys leagues db) := by
  induction leagues generalizing db with
  | nil => exact .refl db
  | cons league leagues ih =>
      have first : Confined detail casinoGroupId db (Ingestion.upsertGroupLeague db casinoGroupId
          league (Ingestion.isLeagueOffered league offeredKeys)) := by
        unfold Ingestion.upsertGroupLeague
        apply Confined.offering
        rfl
      exact first.trans (ih _)

theorem grantAccess_confined {grantTo : Option String} {casinoGroupId : String}
    (granted : Merchants.grantAccess grantTo casinoGroupId db = .ok after) :
    Confined detail casinoGroupId db after := by
  unfold Merchants.grantAccess at granted
  split at granted
  · rw [← Except.ok.inj granted]
    exact .refl db
  · split at granted
    · cases granted
    · rw [← Except.ok.inj granted]
      apply Confined.grant
      rfl

/-- A new tenant is one that was not there. -/
theorem insertMerchant_confined {group created : CasinoGroup} {offeredKeys : List String}
    {grantTo : Option String} {user : StaffUser} (own : user.casinoGroupId = some group.id)
    (done : Merchants.insertMerchant group offeredKeys grantTo user db = .ok (created, after)) :
    created = group ∧ db.catalog.casinoGroups.get? group.id = none ∧
      Confined detail group.id db after := by
  unfold Merchants.insertMerchant at done
  obtain ⟨inserted, grouped, done⟩ := Except.bind_eq_ok.mp done
  obtain ⟨granted, access, done⟩ := Except.bind_eq_ok.mp done
  obtain ⟨last, account, done⟩ := Except.bind_eq_ok.mp done
  obtain ⟨rfl, rfl⟩ := Prod.mk.inj (Except.pure_eq_ok.mp done)
  obtain ⟨fresh, confined⟩ := insertGroup_confined grouped
  refine ⟨rfl, fresh, confined.trans ?_⟩
  exact ((enableLeagues_confined _ _ _ inserted).trans (grantAccess_confined access)).trans
    (.member own account)

theorem createUser_confined {user created : StaffUser} {casinoGroupId : String}
    (own : user.casinoGroupId = some casinoGroupId)
    (done : StaffAdminService.createUser user casinoGroupId db = .ok (created, after)) :
    Confined detail casinoGroupId db after := by
  unfold StaffAdminService.createUser at done
  split at done
  · cases done
  · split at done
    · cases done
    · next _ inserted =>
        obtain ⟨_, rfl⟩ := Prod.mk.inj (Except.ok.inj done)
        exact .member own inserted

variable {runtime : Text.Runtime} {crypto : Crypto}

theorem createMerchant_retains (dto : Merchants.CreateMerchantDto) (staff : StaffContext)
    (generated : Merchants.Generated) :
    (Merchants.createMerchant runtime crypto dto staff generated).CallsOnly Retains := by
  have inserted : ∀ offeredKeys grantTo, (transaction (Merchants.insertMerchant
      (Merchants.merchantGroup runtime crypto dto generated) offeredKeys grantTo
      (Merchants.operatorUser runtime crypto dto generated))).CallsOnly
        (Confines .full generated.casinoGroupId) := fun _ _ =>
    transaction_confines fun _ _ _ done => (insertMerchant_confined rfl done).2.2
  refine (retains_of_confines (inserted _ _)).bind fun group => ?_
  exact (recordAudit_retains _).bind fun _ => trivial

theorem createOperatorAdmin_confines (actor : StaffContext) (casinoGroupId : String)
    (dto : StaffAdminService.CreateOperatorStaffDto) (fresh : StaffAdminService.NewOperator) :
    (StaffAdminService.createOperatorAdmin runtime crypto actor casinoGroupId dto fresh).CallsOnly
      (Confines detail casinoGroupId) := by
  unfold StaffAdminService.createOperatorAdmin
  split
  · trivial
  · refine (assertCasinoGroupAccess_confines casinoGroupId casinoGroupId actor).bind fun _ => ?_
    refine (read_confines _).bind fun group => ?_
    cases group with
    | none => trivial
    | some group =>
        refine CallsOnly.bind (transaction_confines fun _ _ _ => createUser_confined rfl)
          fun created => ?_
        exact (recordAudit_confines named_self).bind fun _ => trivial

theorem replaceGrants_stays {staffUserId : String} {casinoGroupIds : List String} {reply : Unit}
    (done : StaffAdminService.replaceGrants staffUserId casinoGroupIds db = .ok (reply, after)) :
    Stays db after := by
  unfold StaffAdminService.replaceGrants at done
  obtain ⟨access, _, done⟩ := Except.bind_eq_ok.mp done
  split at done
  · cases done
  · obtain ⟨_, rfl⟩ := Prod.mk.inj (Except.pure_eq_ok.mp done)
    exact ⟨fun _ stored => stored, .refl _, .refl _⟩

theorem updateUser_ok {staffUserId : String} {email passwordHash : Option String}
    (done : StaffAuth.updateUser db staffUserId email passwordHash = .ok after) :
    ∃ user updated sessions, db.staff.users.get? user.id = some user ∧ user.id = staffUserId ∧
      updated.id = user.id ∧ updated.casinoGroupId = user.casinoGroupId ∧
      after = { db with
        staff.users := db.staff.users.put updated, staff.sessions := sessions } := by
  unfold StaffAuth.updateUser at done
  split at done
  · cases done
  · next user stored =>
      dsimp only at done
      split at done
      · cases done
      · obtain ⟨member, rfl⟩ := Table.get?_eq_some_iff.mp stored
        refine ⟨user, _, _, stored, rfl, ?_, ?_, (Except.ok.inj done).symm⟩ <;> rfl

/-- The account stays with its tenant. -/
theorem updateUser_retains (staffUserId : String) (email passwordHash : Option String) :
    Retains (staffQuery (.own (.updateUser staffUserId email passwordHash))) := by
  intro db
  simp only [staffQuery, StaffAuth.StaffCall.run, StaffAuth.State.attempt]
  cases done : StaffAuth.updateUser db staffUserId email passwordHash with
  | error failure => exact .refl db
  | ok after =>
      obtain ⟨user, updated, sessions, stored, _, same, still, rfl⟩ := updateUser_ok done
      exact ⟨fun _ there => there, .refl _, attached_put stored same still⟩

/-- The grants of the member may go, but no tenant does. -/
theorem setPlatformAdminTenantAccess_retains (staffUserId : String) (casinoGroupIds : List String)
    (actorStaffUserId : String) :
    (StaffAdminService.setPlatformAdminTenantAccess staffUserId casinoGroupIds
      actorStaffUserId).CallsOnly Retains := by
  refine (read_retains _).bind fun user => ?_
  rcases user with _ | ⟨user, before⟩
  · trivial
  dsimp only
  split
  · trivial
  split
  · trivial
  refine (read_retains _).bind fun groups => ?_
  split
  · trivial
  refine CallsOnly.bind ((callsOnly_call _).mpr fun db => ?_) fun _ => ?_
  · unfold Query.transaction
    cases done : StaffAdminService.replaceGrants staffUserId casinoGroupIds db with
    | error failure => exact .refl db
    | ok result => exact replaceGrants_stays done
  · refine (recordAudit_retains _).bind fun _ => (read_retains _).bind fun updated => ?_
    cases updated <;> trivial

end Accounts

end SportsBetting.Portal
