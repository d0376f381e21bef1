import SportsBetting.Backoffice.Requests
import SportsBetting.Bets.Records

/-!
# What belongs to a tenant

The catalog of games is shared. A tenant has its own row, its offerings, its risk limits,
its bets with their outbox rows, its members of staff, the grants for it, and its part of the
audit log. No transaction ever hands a bet or an outbox row to another tenant.
-/

namespace SportsBetting

open Async Ledger

section Owners

variable {first second third : Ledger}

/-- The tenant that a stored bet belongs to. -/
def Ledger.betOwner (ledger : Ledger) (betId : String) : Option String :=
  (ledger.entry betId).bet.map Bet.casinoGroupId

def Ledger.rowOwner (ledger : Ledger) (key : String × OutboxType) : Option String :=
  ((ledger.entry key.1).row key.2).map WalletOutbox.casinoGroupId

/-- What is stored stays with its tenant. -/
structure Ledger.Owned (before after : Ledger) : Prop where
  bet : ∀ betId owner, before.betOwner betId = some owner → after.betOwner betId = some owner
  row : ∀ key owner, before.rowOwner key = some owner → after.rowOwner key = some owner

namespace Ledger.Owned

theorem refl (ledger : Ledger) : ledger.Owned ledger :=
  ⟨fun _ _ owned => owned, fun _ _ owned => owned⟩

theorem trans (earlier : first.Owned second) (later : second.Owned third) : first.Owned third :=
  ⟨fun betId owner owned => later.bet betId owner (earlier.bet betId owner owned),
    fun key owner owned => later.row key owner (earlier.row key owner owned)⟩

/-- The tenant is among the terms of a bet and of a row. -/
theorem of_keeps (kept : first.Keeps second) : first.Owned second where
  bet betId owner owned := by
    obtain ⟨bet, stored, rfl⟩ := Option.map_eq_some_iff.mp owned
    obtain ⟨later, still, same⟩ := (kept betId).bet bet stored
    simp only [Bet.terms, Bet.placement, Prod.mk.injEq] at same
    rw [betOwner, still]
    exact congrArg some same.2.1.1
  row key owner owned := by
    obtain ⟨row, stored, rfl⟩ := Option.map_eq_some_iff.mp owned
    obtain ⟨later, still, same⟩ := (kept key.1).row key.2 row stored
    simp only [WalletOutbox.terms, Prod.mk.injEq] at same
    rw [rowOwner, still]
    exact congrArg some same.2.1

/-- Bets and rows that are changed in place keep their tenants. -/
theorem of_map {onBet : Bet → Bet} {onRow : WalletOutbox → WalletOutbox}
    (entries : ∀ betId, second.entry betId = (first.entry betId).map onBet onRow)
    (bets : ∀ bet, (onBet bet).casinoGroupId = bet.casinoGroupId)
    (rows : ∀ row, (onRow row).casinoGroupId = row.casinoGroupId) : first.Owned second where
  bet betId owner owned := by
    rw [← owned, betOwner, entries, Entry.map, betOwner, Option.map_map]
    exact congrArg (fun owner => Option.map owner _) (funext bets)
  row key owner owned := by
    rw [← owned, rowOwner, entries, Entry.map_row, rowOwner, Option.map_map]
    exact congrArg (fun owner => Option.map owner _) (funext rows)

end Ledger.Owned

theorem Write.owned {id : String} {now : Time} {db after : Database} {Reply : Type}
    {write : Write Reply} {reply : Reply} (ran : write.run id now db = .ok (reply, after)) :
    db.ledger.Owned after.ledger := by
  by_cases changes : write.ChangesCode
  · cases write with
    | setTransactionCode key code =>
        apply Owned.of_map (Write.entry_of_rowsOnly ran trivial) fun _ => rfl
        intro row
        simp only [Write.onRow]
        split <;> rfl
    | _ => exact changes.elim
  · exact .of_keeps (Write.keeps changes ran)

/-- Whatever the betting side calls, nothing changes its tenant. -/
theorem World.answer_owned {Reply : Type} (request : BettingCall Reply) (choice : Choice)
    (world : World) : world.db.ledger.Owned (world.answer choice request).2.db.ledger := by
  apply World.answer_ledger world world.db.ledger.Owned choice request
  · intro write _ _ reply db ran
    exact Write.owned ran
  · exact .refl _

/-- Whatever the betting side calls, everything but the ledger and the audit log stays. -/
theorem World.answer_beside {Reply : Type} (request : BettingCall Reply) (choice : Choice)
    (world : World) :
    ∃ ledger audit, (world.answer choice request).2.db = { world.db with ledger, audit } := by
  cases request with
  | read look =>
      unfold World.answer
      split <;> exact ⟨_, _, rfl⟩
  | randomUUID | getBalance | postTransaction | postBatch => exact ⟨_, _, rfl⟩
  | write write =>
      rcases world.commit_cases choice.fault
        (fun db => write.run choice.freshId world.clock db) with
        ⟨_, unchanged, _⟩ | ⟨reply, db, ran, done | done⟩
      · simp only [World.answer, unchanged]
        exact ⟨_, _, rfl⟩
      · simp only [World.answer, done]
        obtain ⟨ledger, beside⟩ := Write.run_beside ran
        exact ⟨ledger, _, beside⟩
      · simp only [World.answer, done]
        obtain ⟨ledger, beside⟩ := Write.run_beside ran
        exact ⟨ledger, _, beside⟩

end Owners

namespace Portal

open Trading

section Holdings

/-- How closely one looks: at everything, or at what settling an event for one tenant may not
touch of the others. -/
inductive Detail | full | core

def Detail.bet : Detail → Bet → Bet
  | .full, bet => bet
  | .core, bet => { bet with settlementNote := none }

/-- The columns that say how the delivery of a row goes are not looked at closely. -/
def Detail.row : Detail → WalletOutbox → WalletOutbox
  | .full, row => row
  | .core, row =>
      { row with
        status := .pending, attempts := 0, lastError := none, nextRetryAt := none, batchId := none }

/-- The rows of a tenant in the database. -/
structure TenantRows where
  group : Option CasinoGroup
  offering : String → Option CasinoGroupLeague
  bet : String → Option Bet
  row : String × OutboxType → Option WalletOutbox
  member : String → Option StaffUser
  grant : String → Option StaffCasinoGroupAccess
  audit : List AuditEntry

variable (detail : Detail) (tenant : String)

def tenantRows (db : Database) : TenantRows where
  group := db.catalog.casinoGroups.get? tenant
  offering league := db.catalog.casinoGroupLeagues.get? (tenant, league)
  bet betId := ((db.ledger.entry betId).bet.filter fun bet => bet.casinoGroupId = tenant).map
    detail.bet
  row key := (((db.ledger.entry key.1).row key.2).filter fun row =>
    row.casinoGroupId = tenant).map detail.row
  member id := (db.staff.users.get? id).filter fun user => user.casinoGroupId = some tenant
  grant staffUserId := db.staff.access.get? (staffUserId, tenant)
  audit := db.audit.filter fun entry => entry.casinoGroupId = some tenant

/-- All that is stored for a tenant. -/
structure Holdings where
  rows : TenantRows
  limit : String × String → Option RiskLimit

def State.holdings (portal : State) : Holdings where
  rows := tenantRows detail tenant portal.world.db
  limit scope := portal.limits.get? (tenant, scope)

variable {detail tenant} in
theorem holdings_of_rows {before after : State}
    (rows : tenantRows detail tenant after.world.db = tenantRows detail tenant before.world.db)
    (limits : after.limits = before.limits) :
    after.holdings detail tenant = before.holdings detail tenant := by
  unfold State.holdings
  rw [rows, limits]

/-- The tenant is there. -/
def Stored (db : Database) : Prop := (db.catalog.casinoGroups.get? tenant).isSome

end Holdings

section Confined

variable {detail : Detail} {tenant casinoGroupId : String} {first second : Database}

/-- The members of staff stay, each with its tenant. -/
def Attached (before after : StaffTables) : Prop :=
  ∀ id user, before.users.get? id = some user →
    ∃ later, after.users.get? id = some later ∧ later.casinoGroupId = user.casinoGroupId

theorem Attached.refl (staff : StaffTables) : Attached staff staff :=
  fun _ user stored => ⟨user, stored, rfl⟩

theorem Attached.trans {first second third : StaffTables} (earlier : Attached first second)
    (later : Attached second third) : Attached first third := by
  intro id user stored
  obtain ⟨middle, there, same⟩ := earlier id user stored
  obtain ⟨last, still, again⟩ := later id middle there
  exact ⟨last, still, again.trans same⟩

theorem attached_put {staff : StaffTables} {sessions : StaffSessions} {user updated : StaffUser}
    (stored : staff.users.get? user.id = some user) (same : updated.id = user.id)
    (still : updated.casinoGroupId = user.casinoGroupId) :
    Attached staff { staff with users := staff.users.put updated, sessions } := by
  intro id old there
  dsimp only
  rw [Table.get?_put]
  split
  · next here =>
      rw [← here, same, stored] at there
      exact ⟨updated, rfl, Option.some.inj there ▸ still⟩
  · exact ⟨old, there, rfl⟩

/-- No tenant goes away, and what is stored stays with its tenant. -/
structure Stays (before after : Database) : Prop where
  groups : ∀ tenant, Stored tenant before → Stored tenant after
  owned : before.ledger.Owned after.ledger
  members : Attached before.staff after.staff

theorem Stays.refl (db : Database) : Stays db db := ⟨fun _ stored => stored, .refl _, .refl _⟩

/-- The change is one for this tenant: of the others, nothing differs. -/
structure Confined (detail : Detail) (casinoGroupId : String) (before after : Database) : Prop
    extends Stays before after where
  others : ∀ tenant, tenant ≠ casinoGroupId →
    tenantRows detail tenant after = tenantRows detail tenant before

theorem Confined.refl (db : Database) : Confined detail casinoGroupId db db :=
  { Stays.refl db with others := fun _ _ => rfl }

/-- The shared rows are nobody's. -/
theorem Confined.of_shared (groups : second.catalog.casinoGroups = first.catalog.casinoGroups)
    (leagues : second.catalog.casinoGroupLeagues = first.catalog.casinoGroupLeagues)
    (ledger : second.ledger = first.ledger) (audit : second.audit = first.audit)
    (staff : second.staff = first.staff) : Confined detail casinoGroupId first second where
  groups tenant stored := by
    unfold Stored
    rw [groups]
    exact stored
  owned := by
    rw [ledger]
    exact .refl _
  members := by
    rw [staff]
    exact .refl _
  others tenant _ := by
    unfold tenantRows
    rw [groups, leagues, ledger, audit, staff]

theorem filter_append_other {entry : AuditEntry} {audit : List AuditEntry}
    (other : entry.casinoGroupId ≠ some tenant) :
    (audit ++ [entry]).filter (fun entry => entry.casinoGroupId = some tenant) =
      audit.filter fun entry => entry.casinoGroupId = some tenant := by
  rw [List.filter_append, List.filter_cons_of_neg (by simpa using other), List.filter_nil,
    List.append_nil]

/-- An entry that names the tenant, or none. -/
theorem Confined.record {entry : AuditEntry}
    (named : ∀ owner, entry.casinoGroupId = some owner → owner = casinoGroupId) (db : Database) :
    Confined detail casinoGroupId db { db with audit := db.audit ++ [entry] } where
  groups _ stored := stored
  owned := .refl _
  members := .refl _
  others tenant apart := by
    unfold tenantRows
    dsimp only
    rw [filter_append_other fun own => apart (named tenant own)]

theorem Confined.trans {third : Database} (earlier : Confined detail casinoGroupId first second)
    (later : Confined detail casinoGroupId second third) :
    Confined detail casinoGroupId first third where
  groups tenant stored := later.groups tenant (earlier.groups tenant stored)
  owned := earlier.owned.trans later.owned
  members := earlier.members.trans later.members
  others tenant apart := (later.others tenant apart).trans (earlier.others tenant apart)

/-- A change of the tenant's own row. -/
theorem Confined.group {group : CasinoGroup} (own : group.id = casinoGroupId) (db : Database) :
    Confined detail casinoGroupId db
      { db with catalog.casinoGroups := db.catalog.casinoGroups.put group } where
  groups tenant stored := by
    unfold Stored
    rw [Table.get?_put]
    split
    · rfl
    · exact stored
  owned := .refl _
  members := .refl _
  others tenant apart := by
    have other : ¬ group.id = tenant := fun same => apart (same.symm.trans own)
    unfold tenantRows
    dsimp only
    rw [Table.get?_put, if_neg other]

theorem Confined.offering {offering : CasinoGroupLeague}
    (own : offering.casinoGroupId = casinoGroupId) (db : Database) :
    Confined detail casinoGroupId db
      { db with catalog.casinoGroupLeagues := db.catalog.casinoGroupLeagues.put offering } where
  groups _ stored := stored
  owned := .refl _
  members := .refl _
  others tenant apart := by
    have other : ∀ league, ¬ offering.key = (tenant, league) := by
      intro league same
      exact apart ((congrArg Prod.fst same).symm.trans own)
    unfold tenantRows
    simp only [Table.get?_put, other, if_false]

/-- A new member of the tenant's staff. -/
theorem Confined.member {db after : Database} {user : StaffUser}
    (own : user.casinoGroupId = some casinoGroupId)
    (inserted : Merchants.insertUser db user = .ok after) :
    Confined detail casinoGroupId db after := by
  unfold Merchants.insertUser at inserted
  dsimp only at inserted
  split at inserted
  · cases inserted
  · next users stored =>
      obtain rfl := Except.ok.inj inserted
      have made : db.staff.users.insert? user = some users := by
        split at stored
        · cases stored
        · exact stored
      refine { groups := fun _ there => there, owned := .refl _, members := ?_, others := ?_ }
      · intro id old there
        obtain ⟨member, key⟩ := Table.get?_eq_some_iff.mp there
        refine ⟨old, Table.get?_eq_some_iff.mpr ⟨?_, key⟩, rfl⟩
        exact ((Table.insert?_spec made).2 old).mpr (.inl member)
      intro tenant apart
      have member : ∀ id, (users.get? id).filter (fun user => user.casinoGroupId = some tenant) =
          (db.staff.users.get? id).filter fun user => user.casinoGroupId = some tenant := by
        intro id
        rw [Table.get?_of_insert? made]
        by_cases same : user.id = id
        · have fresh : db.staff.users.get? id = none := by
            rw [Table.get?_eq_none_iff]
            exact same ▸ (Table.insert?_spec made).1
          rw [if_pos same, fresh, Option.filter_none, Option.filter_some, if_neg]
          simpa [own] using apart.symm
        · rw [if_neg same]
      unfold tenantRows
      dsimp only
      simp only [member]

theorem Confined.grant {row : StaffCasinoGroupAccess} (own : row.casinoGroupId = casinoGroupId)
    (db : Database) :
    Confined detail casinoGroupId db { db with staff.access := db.staff.access.put row } where
  groups _ stored := stored
  owned := .refl _
  members := .refl _
  others tenant apart := by
    have other : ∀ staffUserId, ¬ row.key = (staffUserId, tenant) := by
      intro staffUserId same
      exact apart ((congrArg Prod.snd same).symm.trans own)
    unfold tenantRows
    simp only [Table.get?_put, other, if_false]

/-- A change of a member of the tenant's staff, who stays one. -/
theorem Confined.update {user updated : StaffUser} {sessions : StaffSessions} {db : Database}
    (stored : db.staff.users.get? user.id = some user)
    (own : user.casinoGroupId = some casinoGroupId) (same : updated.id = user.id)
    (still : updated.casinoGroupId = user.casinoGroupId) :
    Confined detail casinoGroupId db { db with
      staff.users := db.staff.users.put updated, staff.sessions := sessions } where
  groups _ there := there
  owned := .refl _
  members := attached_put stored same still
  others tenant apart := by
    have gone : ∀ member : StaffUser, member.casinoGroupId = some casinoGroupId →
        (some member).filter (fun member => member.casinoGroupId = some tenant) = none := by
      intro member own
      rw [Option.filter_some, if_neg]
      simpa [own] using apart.symm
    have members : ∀ id, ((db.staff.users.put updated).get? id).filter
          (fun member => member.casinoGroupId = some tenant) =
        (db.staff.users.get? id).filter fun member => member.casinoGroupId = some tenant := by
      intro id
      rw [Table.get?_put]
      split
      · next here =>
          rw [← here, same, stored, gone user own, gone updated (still.trans own)]
      · rfl
    unfold tenantRows
    dsimp only
    simp only [members]

/-- Notes are not looked at closely. -/
theorem Confined.notes (eventRef : String) (db : Database) :
    Confined .core casinoGroupId db (Ingestion.clearSettlementNotes db eventRef) := by
  have entries : ∀ betId, (Ingestion.clearSettlementNotes db eventRef).ledger.entry betId =
      (db.ledger.entry betId).map
        (fun bet => if bet.status = .accepted && bet.legs.any fun leg => leg.eventId = eventRef then
          { bet with settlementNote := none } else bet) fun row => row :=
    entry_modifyBets _ (fun bet => { bet with settlementNote := none }) (fun _ => rfl) fun _ => rfl
  refine ⟨⟨fun _ stored => stored, ?_, .refl _⟩, fun tenant _ => ?_⟩
  · refine Owned.of_map entries (fun bet => ?_) fun _ => rfl
    split <;> rfl
  · have bets : ∀ betId, (((Ingestion.clearSettlementNotes db eventRef).ledger.entry betId).bet.filter
          fun bet => bet.casinoGroupId = tenant).map (Detail.bet .core) =
        ((db.ledger.entry betId).bet.filter fun bet => bet.casinoGroupId = tenant).map
          (Detail.bet .core) := by
      intro betId
      rw [entries, Entry.map]
      cases (db.ledger.entry betId).bet with
      | none => rfl
      | some bet =>
          dsimp only
          rw [Option.map_some, Option.filter_some, Option.filter_some]
          split <;> split <;> simp_all [Detail.bet]
    have rows : ∀ key : String × OutboxType,
        ((Ingestion.clearSettlementNotes db eventRef).ledger.entry key.1).row key.2 =
          (db.ledger.entry key.1).row key.2 := by
      intro key
      rw [entries, Entry.map_row]
      exact Option.map_id'
    unfold tenantRows
    simp only [bets, rows]
    rfl

end Confined

section Writes

variable {detail : Detail} {tenant id : String} {now : Time} {db after : Database} {Reply : Type}

/-- The row is another tenant's, unless one does not look closely. -/
def Spared (detail : Detail) (tenant : String) (ledger : Ledger) (key : String × OutboxType) :
    Prop :=
  detail = .core ∨ ∃ owner, ledger.rowOwner key = some owner ∧ owner ≠ tenant

/-- Transactions for other tenants. -/
def Write.Spares (detail : Detail) (tenant : String) (ledger : Ledger) {Reply : Type} :
    Write Reply → Prop
  | .settleBet graded _ => graded.bet.casinoGroupId ≠ tenant ∧
      ledger.betOwner graded.bet.id = some graded.bet.casinoGroupId
  | .voidBet bet casinoGroupId _ => casinoGroupId ≠ tenant ∧
      ledger.betOwner bet.id = some casinoGroupId
  | .scheduleRetry key _ _ => Spared detail tenant ledger key
  | .assignBatch keys _ | .completeBatch keys _ => ∀ key ∈ keys, Spared detail tenant ledger key
  | .clearRetries casinoGroupId => detail = .core ∨ casinoGroupId ≠ tenant
  | .recordAudit entry => entry.casinoGroupId ≠ some tenant
  | _ => False

theorem rows_eq_of_beside {entries : List AuditEntry} {ledger : Ledger}
    (beside : after = { db with ledger, audit := db.audit ++ entries })
    (bets : ∀ betId, ((after.ledger.entry betId).bet.filter
      fun bet => bet.casinoGroupId = tenant).map detail.bet =
        ((db.ledger.entry betId).bet.filter fun bet => bet.casinoGroupId = tenant).map detail.bet)
    (rows : ∀ betId type, (((after.ledger.entry betId).row type).filter
      fun row => row.casinoGroupId = tenant).map detail.row =
        (((db.ledger.entry betId).row type).filter
          fun row => row.casinoGroupId = tenant).map detail.row)
    (others : ∀ entry ∈ entries, entry.casinoGroupId ≠ some tenant) :
    tenantRows detail tenant after = tenantRows detail tenant db := by
  subst beside
  have none : entries.filter (fun entry => entry.casinoGroupId = some tenant) = [] := by
    rw [List.filter_eq_nil_iff]
    intro entry member
    simpa using others entry member
  have audit : (db.audit ++ entries).filter (fun entry => entry.casinoGroupId = some tenant) =
      db.audit.filter fun entry => entry.casinoGroupId = some tenant := by
    rw [List.filter_append, none, List.append_nil]
  unfold tenantRows
  simp only [bets, rows, audit]

/-- A delivery changes nothing that one sees of the tenant's own rows. -/
theorem row_onRow {write : Write Reply} {ledger : Ledger} {betId : String} {type : OutboxType}
    {row : WalletOutbox} (rowsOnly : write.RowsOnly) (spares : Write.Spares detail tenant ledger write)
    (stored : (ledger.entry betId).row type = some row) (own : row.casinoGroupId = tenant) :
    detail.row (write.onRow now row) = detail.row row := by
  have key : row.key = (betId, type) := by
    obtain ⟨_, betId, type⟩ := entry_row.mp stored
    rw [WalletOutbox.key, betId, type]
  have cored : Spared detail tenant ledger row.key → detail = .core := by
    intro spared
    apply spared.resolve_right
    rintro ⟨owner, owned, apart⟩
    rw [key, Ledger.rowOwner, stored] at owned
    exact apart ((Option.some.inj owned).symm.trans own)
  cases write with
  | createBet | acceptBet | rejectBet | settleBet | voidBet => exact rowsOnly.elim
  | setTransactionCode | completeRow => exact spares.elim
  | recordAudit => rfl
  | scheduleRetry other attempts message =>
      simp only [Write.onRow]
      split
      · next hit =>
          rw [cored (hit ▸ spares)]
          rfl
      · rfl
  | assignBatch keys batchId =>
      simp only [Write.onRow]
      split
      · next hit =>
          rw [cored (spares _ hit)]
          rfl
      · rfl
  | completeBatch keys batchId =>
      simp only [Write.onRow]
      split
      · next hit =>
          rw [cored (spares _ hit)]
          rfl
      · rfl
  | clearRetries casinoGroupId =>
      simp only [Write.onRow]
      split
      · next pending =>
          have here : row.casinoGroupId = casinoGroupId := by
            simp only [pendingSettlementOf, Bool.and_eq_true, decide_eq_true_eq] at pending
            exact pending.1.1
          rw [spares.resolve_right fun apart => apart (here.symm.trans own)]
          rfl
      · rfl

theorem onRow_owner (write : Write Reply) (row : WalletOutbox) :
    (write.onRow now row).casinoGroupId = row.casinoGroupId := by
  cases write with
  | setTransactionCode | scheduleRetry | completeRow | assignBatch | completeBatch
  | clearRetries =>
      simp only [Write.onRow]
      split <;> rfl
  | createBet | acceptBet | rejectBet | settleBet | voidBet | recordAudit => rfl

theorem rows_of_rowsOnly {write : Write Reply} {reply : Reply} (rowsOnly : write.RowsOnly)
    (spares : Write.Spares detail tenant db.ledger write)
    (ran : write.run id now db = .ok (reply, after)) :
    tenantRows detail tenant after = tenantRows detail tenant db := by
  obtain ⟨ledger, beside⟩ := Write.run_beside ran
  have entries := Write.entry_of_rowsOnly ran rowsOnly
  apply rows_eq_of_beside beside
  · intro betId
    rw [entries]
    exact congrArg (fun bet => (Option.filter _ bet).map detail.bet) Option.map_id'
  · intro betId type
    rw [entries, Entry.map_row]
    cases stored : (db.ledger.entry betId).row type with
    | none => rfl
    | some row =>
        rw [Option.map_some, Option.filter_some, Option.filter_some, onRow_owner]
        by_cases own : row.casinoGroupId = tenant
        · rw [if_pos (by simpa using own), if_pos (by simpa using own)]
          exact congrArg some (row_onRow rowsOnly spares stored own)
        · rw [if_neg (by simpa using own), if_neg (by simpa using own)]
  · intro entry made
    cases write with
    | recordAudit =>
        obtain rfl := List.mem_singleton.mp made
        exact spares
    | _ => cases made

theorem rows_of_credit {credit : Credit} {bet : Bet} {owner : String}
    (own : credit.row.betId = credit.betId) (committed : credit.commit now db = .ok (bet, after))
    (owned : db.ledger.betOwner credit.betId = some owner) (apart : owner ≠ tenant)
    (row : credit.row.casinoGroupId ≠ tenant) :
    tenantRows detail tenant after = tenantRows detail tenant db := by
  obtain ⟨ledger, beside⟩ := Credit.commit_beside committed
  obtain ⟨old, stored, free, _, entries⟩ := Credit.commit_ok own committed
  rw [Ledger.betOwner, stored, Option.map_some, Option.some.injEq] at owned
  have beside : after = { db with ledger, audit := db.audit ++ [] } := by
    rw [beside, List.append_nil]
  refine rows_eq_of_beside beside ?_ ?_ fun _ never => absurd never List.not_mem_nil
  · intro betId
    rw [entries]
    by_cases here : betId = credit.betId
    · subst here
      have other : ¬ old.casinoGroupId = tenant := fun same => apart (owned.symm.trans same)
      have still : ¬ (credit.update now old).casinoGroupId = tenant := other
      rw [Function.update_self, Entry.setRow_bet, Entry.setBet_bet, stored, Option.filter_some,
        Option.filter_some, if_neg (by simpa using still), if_neg (by simpa using other)]
    · rw [Function.update_of_ne here]
  · intro betId type
    rw [entries]
    by_cases here : betId = credit.betId
    · subst here
      rw [Function.update_self, Entry.setRow_row, Entry.setBet_row]
      split
      · next same =>
          rw [← same, free, Option.filter_none, Option.filter_some, if_neg (by simpa using row)]
      · rfl
    · rw [Function.update_of_ne here]

/-- A transaction for other tenants leaves the rows of this one. -/
theorem rows_of_spares {write : Write Reply} {reply : Reply}
    (spares : Write.Spares detail tenant db.ledger write)
    (ran : write.run id now db = .ok (reply, after)) :
    tenantRows detail tenant after = tenantRows detail tenant db := by
  cases write with
  | settleBet graded batchId =>
      obtain ⟨credit, built, committed⟩ := Except.bind_eq_ok.mp ran
      obtain ⟨_, _, betId, _, _, row⟩ := settlementCredit_ok built
      apply rows_of_credit (settlementCredit_own built) committed (betId ▸ spares.2) spares.1
      rw [row]
      exact spares.1
  | voidBet bet casinoGroupId reason =>
      obtain ⟨credit, built, committed⟩ := Except.bind_eq_ok.mp ran
      obtain ⟨_, _, betId, _, _, row⟩ := staffVoidCredit_ok built
      apply rows_of_credit (staffVoidCredit_own built) committed (betId ▸ spares.2) spares.1
      rw [row]
      exact spares.1
  | createBet | acceptBet | rejectBet | setTransactionCode | completeRow => exact spares.elim
  | _ =>
      refine rows_of_rowsOnly ?_ spares ran
      trivial

end Writes

end Portal

end SportsBetting
