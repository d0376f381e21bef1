import SportsBetting.Async.Journal
import SportsBetting.Backoffice.Mutations
import SportsBetting.Settlement.Calls

/-!
# The audit log of the back office

Every mutation commits its rows first, and then inserts its audit entry by itself, on a
best effort.
-/

namespace SportsBetting.Portal

open Async Program Trading Journal

section Definitions

structure Rows where
  catalog : Catalog
  ledger : Ledger
  staff : StaffTables
  limits : RiskLimits
  deriving DecidableEq

/-- All rows but the audit log. -/
def State.rows (portal : State) : Rows :=
  ⟨portal.world.db.catalog, portal.world.db.ledger, portal.world.db.staff, portal.limits⟩

@[reducible] def auditLog : Journal machine Rows AuditEntry where
  rows := State.rows
  notes portal := portal.world.db.audit
  rows_occur _ _ := rfl
  notes_occur _ _ := rfl

/-- The entry names who did what to which entity. -/
structure Names (actorId action entityType entityId : String) (entry : AuditEntry) : Prop where
  actorType : entry.actorType = "staff"
  actorId : entry.actorId = actorId
  action : entry.action = action
  entityType : entry.entityType = entityType
  entityId : entry.entityId = entityId

/-- Such an entry was made since. -/
abbrev Recorded (before now : State) (actorId action entityType entityId : String) : Prop :=
  auditLog.Since before (Names actorId action entityType entityId) now

def offeringOf (rows : Rows) (casinoGroupId league : String) : Option CasinoGroupLeague :=
  rows.catalog.casinoGroupLeagues.get? (casinoGroupId, league)

/-- What settlement changes: the bets, their notes apart, and the outbox. -/
def settled (ledger : Ledger) : List Bet × Table WalletOutbox WalletOutbox.key :=
  (ledger.bets.rows.map fun bet => { bet with settlementNote := none }, ledger.walletOutbox)

/-- Nothing differs but offerings of the tenant, and each of them is recorded. -/
structure OfferingsAccounted (casinoGroupId staffUserId : String) (before now : State) : Prop where
  others : { now.rows with
    catalog.casinoGroupLeagues := before.rows.catalog.casinoGroupLeagues } = before.rows
  offerings : ∀ group league, offeringOf now.rows group league ≠ offeringOf before.rows group league →
    group = casinoGroupId ∧ Recorded before now staffUserId "product.league_offering_updated"
      "CasinoGroupLeague" (casinoGroupId ++ ":" ++ league)

/-- The entry names the tenant's limits by their id. -/
def LimitsAccounted (casinoGroupId staffUserId : String) (before now : State) : Prop :=
  now.rows ≠ before.rows → ∃ limit ∈ now.limits, limit.key = globalKey casinoGroupId ∧
    Recorded before now staffUserId "trading.limits_updated" "RiskLimit" limit.id

/-- The result and the settlement are recorded each by an entry of its own. -/
structure ResultAccounted (eventId staffUserId : String) (before now : State) : Prop where
  result : now.rows ≠ before.rows →
    Recorded before now staffUserId "settlement.manual_result" "Event" eventId
  settlement : settled now.rows.ledger ≠ settled before.rows.ledger →
    Recorded before now staffUserId "settlement.event_run" "Event" eventId

/-- Whatever rows differ, the log names the actor, the action and the entity. -/
def Mutation.Accounted (before now : State) : Mutation → Prop
  | .updateLeagues casinoGroupId _ staff =>
      OfferingsAccounted casinoGroupId staff.staffUserId before now
  | .patchTenant casinoGroupId _ staffUserId => now.rows ≠ before.rows →
      Recorded before now staffUserId "tenant.updated" "CasinoGroup" casinoGroupId
  | .patchLimits casinoGroupId _ staffUserId =>
      LimitsAccounted casinoGroupId staffUserId before now
  | .suspendEvent _ eventId _ staffUserId => now.rows ≠ before.rows →
      Recorded before now staffUserId "trading.event_suspended" "Event" eventId
  | .suspendMarket _ marketId _ staffUserId => now.rows ≠ before.rows →
      Recorded before now staffUserId "trading.market_suspended" "Market" marketId
  | .resumeMarket _ marketId staffUserId => now.rows ≠ before.rows →
      Recorded before now staffUserId "trading.market_resumed" "Market" marketId
  | .voidBet _ betId _ staffUserId => now.rows ≠ before.rows →
      Recorded before now staffUserId "bets.voided" "Bet" betId
  | .applyManualResultAndSettle _ eventId _ _ staffUserId =>
      ResultAccounted eventId staffUserId before now
  | .setPlatformAdminTenantAccess staffUserId _ actorStaffUserId => now.rows ≠ before.rows →
      Recorded before now actorStaffUserId "staff.tenant_access.updated" "StaffUser" staffUserId

end Definitions

section Stores

/-- The rows and the log together. -/
def State.store (portal : State) : Database × RiskLimits := (portal.world.db, portal.limits)

variable {before first second : State}

theorem database_eq {first second : Database} (catalog : second.catalog = first.catalog)
    (ledger : second.ledger = first.ledger) (audit : second.audit = first.audit)
    (staff : second.staff = first.staff) : second = first := by
  cases first
  cases second
  simp_all

theorem store_eq (rows : second.rows = first.rows)
    (notes : second.world.db.audit = first.world.db.audit) : second.store = first.store := by
  obtain ⟨catalog, ledger, staff, limits⟩ := Rows.mk.inj rows
  exact Prod.ext (database_eq catalog ledger notes staff) limits

theorem rows_of_store (same : second.store = first.store) : second.rows = first.rows := by
  obtain ⟨db, limits⟩ := Prod.mk.inj same
  unfold State.rows
  rw [db, limits]

theorem notes_of_store (same : second.store = first.store) :
    second.world.db.audit = first.world.db.audit :=
  congrArg Database.audit (Prod.mk.inj same).1

theorem since_congr {kind : AuditEntry → Prop}
    (notes : second.world.db.audit = first.world.db.audit)
    (since : auditLog.Since before kind first) : auditLog.Since before kind second :=
  since.extend ⟨[], by simp [notes]⟩

theorem OfferingsAccounted.congr {casinoGroupId staffUserId : String}
    (rows : second.rows = first.rows) (notes : second.world.db.audit = first.world.db.audit)
    (held : OfferingsAccounted casinoGroupId staffUserId before first) :
    OfferingsAccounted casinoGroupId staffUserId before second := by
  refine ⟨by rw [rows]; exact held.others, fun group league differs => ?_⟩
  rw [rows] at differs
  exact (held.offerings group league differs).imp_right (since_congr notes)

/-- Only the rows and the log matter. -/
theorem Mutation.Accounted.congr (mutation : Mutation) (rows : second.rows = first.rows)
    (notes : second.world.db.audit = first.world.db.audit)
    (accounted : mutation.Accounted before first) : mutation.Accounted before second := by
  have limits : second.limits = first.limits := (Rows.mk.inj rows).2.2.2
  cases mutation with
  | updateLeagues => exact OfferingsAccounted.congr rows notes accounted
  | patchLimits =>
      intro differs
      rw [rows] at differs
      obtain ⟨limit, member, own, since⟩ := accounted differs
      exact ⟨limit, limits ▸ member, own, since_congr notes since⟩
  | applyManualResultAndSettle =>
      exact ⟨fun differs => since_congr notes (accounted.result (rows ▸ differs)),
        fun differs => since_congr notes (accounted.settlement (rows ▸ differs))⟩
  | _ => exact fun differs => since_congr notes (accounted (rows ▸ differs))

theorem Mutation.accounted_start (mutation : Mutation) (portal : State) :
    mutation.Accounted portal portal := by
  cases mutation with
  | updateLeagues => exact ⟨rfl, fun group league differs => absurd rfl differs⟩
  | patchLimits => exact fun differs => absurd rfl differs
  | applyManualResultAndSettle =>
      exact ⟨fun differs => absurd rfl differs, fun differs => absurd rfl differs⟩
  | _ => exact fun differs => absurd rfl differs

end Stores

section Calls

variable {kind : AuditEntry → Prop} {Reply α : Type}

/-- A query that leaves the log as it is, or appends an entry of the kind. -/
def Appends (kind : AuditEntry → Prop) (query : Query Database Failure Reply) : Prop :=
  ∀ db, (query db).2.audit = db.audit ∨
    ∃ entry, kind entry ∧ (query db).2.audit = db.audit ++ [entry]

theorem Appends.adds {query : Query Database Failure Reply} (appends : Appends kind query) :
    auditLog.Adds kind (.database query) := by
  intro choice portal
  simp only [State.perform]
  cases choice.fault with
  | refused => exact .inl rfl
  | none => exact appends portal.world.db
  | unacknowledged => exact appends portal.world.db

theorem write_appends {change : Database → Database} (same : ∀ db, (change db).audit = db.audit) :
    (write change).CallsOnly (Appends kind) :=
  (callsOnly_call _).mpr fun db => .inl (same db)

theorem transaction_appends {change : Database → Except Failure (α × Database)}
    (same : ∀ db reply after, change db = .ok (reply, after) → after.audit = db.audit) :
    (transaction change).CallsOnly (Appends kind) := by
  refine (callsOnly_call _).mpr fun db => .inl ?_
  unfold Query.transaction
  cases changed : change db with
  | error failure => rfl
  | ok result => exact same db result.1 result.2 changed

theorem prisma_adds {service : Service α} (only : service.CallsOnly (Appends kind)) :
    (prisma service).CallsOnly (auditLog.Adds kind) := by
  unfold prisma
  exact only.mapCalls fun query appends => appends.adds

/-- A query that only reads. -/
def Reads (query : Query Database Failure Reply) : Prop := ∀ db, (query db).2 = db

theorem read_reads (view : Database → α) : (read view).CallsOnly Reads :=
  (callsOnly_call _).mpr fun _ => rfl

theorem Reads.store {query : Query Database Failure Reply} (reads : Reads query) (choice : Choice)
    (portal : State) : (portal.perform choice (.database query)).2.store = portal.store := by
  simp only [State.perform]
  cases choice.fault with
  | refused => rfl
  | none => exact Prod.ext (reads _) rfl
  | unacknowledged => exact Prod.ext (reads _) rfl

theorem Reads.still {query : Query Database Failure Reply} (reads : Reads query) :
    auditLog.Still (.database query) := fun choice portal =>
  ⟨rows_of_store (reads.store choice portal), notes_of_store (reads.store choice portal)⟩

theorem prisma_still {service : Service α} (only : service.CallsOnly Reads) :
    (prisma service).CallsOnly auditLog.Still := by
  unfold prisma
  exact only.mapCalls fun query reads => reads.still

/-- The calls of the betting services, with the entries they insert. -/
def Inserts (kind : AuditEntry → Prop) : BettingCall Reply → Prop
  | .write transaction => ∀ entry ∈ transaction.entries, kind entry
  | _ => True

theorem Inserts.adds {call : BettingCall Reply} (inserts : Inserts kind call) :
    auditLog.Adds kind (.betting call) := by
  intro choice portal
  cases call with
  | read look =>
      simp only [State.perform, World.answer]
      split <;> exact .inl rfl
  | randomUUID | getBalance | postTransaction | postBatch => exact .inl rfl
  | write transaction =>
      have changed : ∀ reply db, transaction.run choice.freshId portal.world.clock portal.world.db =
          .ok (reply, db) → db.audit = portal.world.db.audit ∨
            ∃ entry, kind entry ∧ db.audit = portal.world.db.audit ++ [entry] := by
        intro reply db ran
        obtain ⟨ledger, rfl⟩ := Write.run_beside ran
        cases transaction with
        | recordAudit entry => exact .inr ⟨entry, inserts entry (List.mem_singleton_self _), rfl⟩
        | _ => exact .inl (List.append_nil _)
      simp only [State.perform, World.answer]
      rcases portal.world.commit_cases choice.fault fun db =>
        transaction.run choice.freshId portal.world.clock db with
        ⟨_, unchanged, _⟩ | ⟨reply, db, ran, done | done⟩
      · rw [unchanged]
        exact .inl rfl
      · rw [done]
        exact changed reply db ran
      · rw [done]
        exact changed reply db ran

theorem betting_adds {service : Betting α}
    (only : service.CallsOnly fun call => Inserts kind call) :
    (betting service).CallsOnly (auditLog.Adds kind) := by
  unfold betting
  exact only.mapCalls fun call inserts => inserts.adds

theorem cache_adds (call : CasinoGroups.CacheCall Reply) : auditLog.Adds kind (.cache call) :=
  fun _ _ => .inl rfl

end Calls

section Entries

variable {kind : AuditEntry → Prop} {entry : AuditEntry}

def insertion (entry : AuditEntry) : Query Database Failure Unit :=
  Query.write fun db => { db with audit := db.audit ++ [entry] }

theorem insertion_can (choice : Choice) (portal : State) :
    ∃ other, auditLog.notes (portal.perform other (.database (insertion entry))).2 ≠
      auditLog.notes portal :=
  ⟨{ choice with fault := .none }, by simp [State.perform, insertion, Query.write]⟩

theorem recordAudit_makesNote (meant : kind entry) :
    auditLog.MakesNote kind (prisma (recordAudit entry)) := by
  have adds : auditLog.Adds kind (.database (insertion entry)) :=
    Appends.adds fun _ => .inr ⟨entry, meant, rfl⟩
  unfold prisma recordAudit
  rw [mapCalls_handle]
  exact MakesNote.handle adds (adds.makes insertion_can) fun _ => trivial

/-- Rows are written, and then the entry is made. -/
theorem write_recordAudit {change : Database → Database}
    (same : ∀ db, (change db).audit = db.audit) (meant : kind entry) :
    auditLog.NotesChanges kind (prisma (do write change; recordAudit entry)) := by
  unfold prisma
  rw [mapCalls_bind]
  exact (MakesNote.bind (prisma_adds (write_appends same))
    fun _ => recordAudit_makesNote meant).notesChanges

theorem record_makesNote (meant : kind entry) :
    auditLog.MakesNote kind (betting (StaffBetsService.record entry)) := by
  have adds : auditLog.Adds kind (.betting (.write (.recordAudit entry))) := by
    apply Inserts.adds
    intro other member
    obtain rfl := List.mem_singleton.mp member
    exact meant
  unfold betting StaffBetsService.record
  rw [mapCalls_handle]
  refine MakesNote.handle adds (adds.makes fun choice portal => ?_) fun _ => trivial
  exact ⟨{ choice with fault := .none }, by simp [State.perform, World.answer, World.commit, Write.run]⟩

end Entries

section Mutations

variable {kind : AuditEntry → Prop}

theorem assertTenantMarket_reads (casinoGroupId marketId : String) :
    (assertTenantMarket casinoGroupId marketId).CallsOnly Reads := by
  refine (read_reads _).bind fun market => ?_
  cases market <;> trivial

theorem suspendEvent_notesChanges (casinoGroupId eventId reason staffUserId : String)
    (meant : kind (tradingEntry staffUserId casinoGroupId "trading.event_suspended" "Event" eventId
      (some reason))) :
    auditLog.NotesChanges kind
      (prisma (Trading.suspendEvent casinoGroupId eventId reason staffUserId)) := by
  unfold Trading.suspendEvent prisma
  rw [mapCalls_bind]
  refine NotesChanges.bind (prisma_still ?_) fun event => ?_
  · refine (read_reads _).bind fun event => ?_
    cases event <;> trivial
  split
  · trivial
  · exact write_recordAudit (fun _ => rfl) meant

theorem suspendMarket_notesChanges (casinoGroupId marketId reason staffUserId : String)
    (meant : kind (tradingEntry staffUserId casinoGroupId "trading.market_suspended" "Market"
      marketId (some reason))) :
    auditLog.NotesChanges kind
      (prisma (Trading.suspendMarket casinoGroupId marketId reason staffUserId)) := by
  unfold Trading.suspendMarket prisma
  rw [mapCalls_bind]
  refine NotesChanges.bind (prisma_still (assertTenantMarket_reads casinoGroupId marketId))
    fun (market, _) => ?_
  dsimp only
  split
  · trivial
  · exact write_recordAudit (fun _ => rfl) meant

theorem resumeMarket_notesChanges (casinoGroupId marketId staffUserId : String)
    (meant : kind (tradingEntry staffUserId casinoGroupId "trading.market_resumed" "Market"
      marketId none)) :
    auditLog.NotesChanges kind
      (prisma (Trading.resumeMarket casinoGroupId marketId staffUserId)) := by
  unfold Trading.resumeMarket prisma
  rw [mapCalls_bind]
  refine NotesChanges.bind (prisma_still (assertTenantMarket_reads casinoGroupId marketId))
    fun (_, event) => ?_
  dsimp only
  split
  · trivial
  · exact write_recordAudit (fun _ => rfl) meant

theorem audit_replaceGrants {staffUserId : String} {casinoGroupIds : List String}
    {db after : Database} {reply : Unit}
    (replaced : StaffAdminService.replaceGrants staffUserId casinoGroupIds db =
      .ok (reply, after)) : after.audit = db.audit := by
  obtain ⟨access, _, replaced⟩ := Except.bind_eq_ok.mp replaced
  split at replaced
  · cases replaced
  · obtain ⟨_, rfl⟩ := Prod.mk.inj (Except.ok.inj replaced)
    rfl

theorem setPlatformAdminTenantAccess_notesChanges (staffUserId : String)
    (casinoGroupIds : List String) (actorStaffUserId : String)
    (meant : ∀ email before, kind (StaffAdminService.accessEntry staffUserId email before
      casinoGroupIds actorStaffUserId)) :
    auditLog.NotesChanges kind (prisma (StaffAdminService.setPlatformAdminTenantAccess staffUserId
      casinoGroupIds actorStaffUserId)) := by
  unfold StaffAdminService.setPlatformAdminTenantAccess prisma
  rw [mapCalls_bind]
  refine NotesChanges.bind (prisma_still (read_reads _)) fun found => ?_
  rcases found with _ | ⟨user, before⟩
  · trivial
  dsimp only
  split
  · trivial
  split
  · trivial
  rw [mapCalls_bind]
  refine NotesChanges.bind (prisma_still (read_reads _)) fun groups => ?_
  split
  · trivial
  rw [mapCalls_bind]
  refine (MakesNote.bind (prisma_adds (transaction_appends fun _ _ _ => audit_replaceGrants))
    fun _ => ?_).notesChanges
  rw [mapCalls_bind]
  refine MakesNote.bind_made (recordAudit_makesNote (meant user.email before)) fun _ => ?_
  refine (prisma_still (CallsOnly.bind (read_reads _) fun updated => ?_)).mono
    fun _ still => still.adds
  cases updated <;> trivial

theorem audit_updateGroup {casinoGroupId : String} {dto : CasinoGroups.PatchTenantDto}
    {db after : Database} {tenant : CasinoGroups.Tenant}
    (updated : CasinoGroups.updateGroup casinoGroupId dto db = .ok (tenant, after)) :
    after.audit = db.audit := by
  unfold CasinoGroups.updateGroup at updated
  split at updated
  · cases updated
  · obtain ⟨_, rfl⟩ := Prod.mk.inj (Except.ok.inj updated)
    rfl

/-- What the tenants' service runs on the database, the portal runs there. -/
theorem caching_prisma {α : Type} (service : Service α) :
    caching (CasinoGroups.prisma service) = prisma service := by
  unfold caching CasinoGroups.prisma prisma
  induction service with
  | done outcome => rfl
  | await request next ih => simp only [mapCalls, ih, Call.ofCache]

theorem patchTenant_notesChanges (casinoGroupId : String) (dto : CasinoGroups.PatchTenantDto)
    (staffUserId : String)
    (meant : ∀ before after, kind (CasinoGroups.tenantEntry casinoGroupId staffUserId before after)) :
    auditLog.NotesChanges kind
      (caching (CasinoGroups.patchTenant casinoGroupId dto staffUserId)) := by
  have each : ∀ {α β : Type} (first : CasinoGroups.CacheService α)
      (next : α → CasinoGroups.CacheService β),
      caching (first >>= next) = caching first >>= fun value => caching (next value) := by
    intro α β first next
    exact mapCalls_bind first next
  unfold CasinoGroups.patchTenant
  rw [each, caching_prisma]
  refine NotesChanges.bind (prisma_still ?_) fun before => ?_
  · refine (read_reads _).bind fun group => ?_
    cases group <;> trivial
  rw [each, caching_prisma]
  refine (MakesNote.bind (prisma_adds (transaction_appends fun _ _ _ => audit_updateGroup))
    fun updated => ?_).notesChanges
  rw [each]
  refine MakesNote.bind ((callsOnly_call _).mpr (cache_adds _)) fun _ => ?_
  rw [each, caching_prisma]
  exact MakesNote.bind_made (recordAudit_makesNote (meant before updated)) fun _ => trivial

theorem voidBet_notesChanges (casinoGroupId betId reason staffUserId : String)
    (meant : kind (StaffBetsService.voidedEntry casinoGroupId betId reason staffUserId)) :
    auditLog.NotesChanges kind
      (betting (StaffBetsService.voidBet casinoGroupId betId reason staffUserId)) := by
  unfold StaffBetsService.voidBet betting
  rw [mapCalls_bind]
  refine NotesChanges.bind ((callsOnly_call _).mpr ?_) fun bet? => ?_
  · intro choice portal
    simp only [State.perform, World.answer]
    split <;> exact ⟨rfl, rfl⟩
  cases bet? with
  | none => trivial
  | some bet =>
      dsimp only
      split
      · trivial
      split
      · trivial
      rw [mapCalls_bind]
      refine (MakesNote.bind ((callsOnly_call _).mpr ?_) fun updated => ?_).notesChanges
      · refine Inserts.adds ?_
        rintro _ ⟨⟩
      rw [mapCalls_bind]
      exact MakesNote.bind_made (record_makesNote meant) fun _ => trivial

end Mutations

end SportsBetting.Portal
