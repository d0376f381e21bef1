import Mathlib.Data.List.Sort
import SportsBetting.Async.Eval
import SportsBetting.Database

/-!
# Which tenants a staff member may access

A member bound to a tenant has that one. A platform operator has all of them as
a super admin, and those it was granted as a platform admin.
-/

namespace SportsBetting

open Async

structure StaffContext where
  staffUserId : String
  casinoGroupId : Option String
  roles : List StaffRole

/-- Roles that operate cross-tenant. -/
def PLATFORM_SCOPE_ROLES : List StaffRole := [.superAdmin, .platformAdmin]

def hasStaffRole (roles : List StaffRole) (role : StaffRole) : Bool := roles.contains role

def isPlatformScopeRole (roles : List StaffRole) : Bool :=
  roles.any fun role => PLATFORM_SCOPE_ROLES.contains role

/-- Platform-scoped staff is not bound to a single tenant. -/
def isPlatformStaff (staff : StaffContext) : Bool := staff.casinoGroupId.isNone

/-- The text, if there is one and it is not empty. -/
def nonEmpty (text : Option String) : Option String := text.filter fun text => text ≠ ""

theorem eq_some_of_nonEmpty {text : Option String} {value : String}
    (found : nonEmpty text = some value) : text = some value :=
  (Option.filter_eq_some_iff.mp found).1

namespace StaffScopeService

structure TenantListItem where
  id : String
  slug : String
  name : String
  active : Bool
  deriving DecidableEq

def tenantListItem (group : CasinoGroup) : TenantListItem :=
  ⟨group.id, group.slug, group.name, group.active⟩

def byName (groups : List CasinoGroup) : List TenantListItem :=
  (groups.insertionSort fun first second => first.name ≤ second.name).map tenantListItem

/-- The groups that the member was granted. -/
def grantedGroups (staffUserId : String) (db : Database) : List CasinoGroup :=
  (db.staff.access.rows.filter fun row => row.staffUserId = staffUserId).filterMap fun row =>
    db.catalog.casinoGroups.get? row.casinoGroupId

def listAccessibleTenants (staff : StaffContext) : Service (List TenantListItem) :=
  match nonEmpty staff.casinoGroupId with
  | some casinoGroupId =>
      read fun db => ((db.catalog.casinoGroups.get? casinoGroupId).map tenantListItem).toList
  | none =>
      if !isPlatformScopeRole staff.roles then pure []
      else if hasStaffRole staff.roles .superAdmin then
        read fun db => byName db.catalog.casinoGroups.rows
      else if hasStaffRole staff.roles .platformAdmin then
        read fun db => byName (grantedGroups staff.staffUserId db)
      else pure []

def assertCasinoGroupAccess (staff : StaffContext) (casinoGroupId : String) : Service Unit := do
  let group ← read fun db => db.catalog.casinoGroups.get? casinoGroupId
  match group with
  | none => throw (.notFound "Casino group not found")
  | some _ =>
      match nonEmpty staff.casinoGroupId with
      | some own =>
          if own ≠ casinoGroupId then throw (.forbidden "Cannot access another casino group")
          else pure ()
      | none =>
          if !isPlatformScopeRole staff.roles then
            throw (.forbidden "Cannot access this casino group")
          else if hasStaffRole staff.roles .superAdmin then pure ()
          else if hasStaffRole staff.roles .platformAdmin then do
            let grant ← read fun db => db.staff.access.get? (staff.staffUserId, casinoGroupId)
            match grant with
            | none => throw (.forbidden "You are not authorized to access this casino group")
            | some _ => pure ()
          else throw (.forbidden "Cannot access this casino group")

def resolveCasinoGroupId (staff : StaffContext) (requestedGroupId : Option String) :
    Service String :=
  match nonEmpty staff.casinoGroupId with
  | some own =>
      match nonEmpty requestedGroupId with
      | some requested =>
          if requested ≠ own then throw (.forbidden "Cannot access another casino group")
          else pure own
      | none => pure own
  | none =>
      match nonEmpty requestedGroupId with
      | none =>
          throw (.badRequest "Query parameter casinoGroupId is required for platform operators")
      | some requested => do
          assertCasinoGroupAccess staff requested
          pure requested

/-- The policy behind all three: the groups a member has to do with. -/
def Accessible (staff : StaffContext) (db : Database) (group : CasinoGroup) : Prop :=
  match nonEmpty staff.casinoGroupId with
  | some own => group.id = own
  | none =>
      .superAdmin ∈ staff.roles ∨
        .platformAdmin ∈ staff.roles ∧ db.staff.access.Has (staff.staffUserId, group.id)

section Policy

variable {staff : StaffContext} {db : Database}

theorem hasStaffRole_iff {roles : List StaffRole} {role : StaffRole} :
    hasStaffRole roles role = true ↔ role ∈ roles := by
  simp [hasStaffRole]

theorem isPlatformScopeRole_iff {roles : List StaffRole} :
    isPlatformScopeRole roles = true ↔ .superAdmin ∈ roles ∨ .platformAdmin ∈ roles := by
  simp only [isPlatformScopeRole, PLATFORM_SCOPE_ROLES, List.any_eq_true, List.contains_iff_mem,
    List.mem_cons, List.not_mem_nil, or_false]
  constructor
  · intro ⟨role, member, scope⟩
    rcases scope with rfl | rfl
    · exact .inl member
    · exact .inr member
  · intro either
    rcases either with member | member
    · exact ⟨_, member, .inl rfl⟩
    · exact ⟨_, member, .inr rfl⟩

theorem mem_byName {groups : List CasinoGroup} {casinoGroupId : String} :
    casinoGroupId ∈ (byName groups).map TenantListItem.id ↔
      ∃ group ∈ groups, group.id = casinoGroupId := by
  simp [byName, tenantListItem]

theorem mem_grantedGroups {staffUserId : String} {group : CasinoGroup} :
    group ∈ grantedGroups staffUserId db ↔
      group ∈ db.catalog.casinoGroups ∧ db.staff.access.Has (staffUserId, group.id) := by
  simp only [grantedGroups, List.mem_filterMap, List.mem_filter, decide_eq_true_eq,
    Table.get?_eq_some_iff]
  constructor
  · rintro ⟨row, ⟨granted, own⟩, stored, same⟩
    refine ⟨stored, row, granted, ?_⟩
    rw [StaffCasinoGroupAccess.key, own, same]
  · rintro ⟨stored, row, granted, key⟩
    obtain ⟨own, same⟩ := Prod.mk.inj key
    exact ⟨row, ⟨granted, own⟩, stored, same.symm⟩

/-- The listing has exactly the groups of the policy. -/
theorem listAccessibleTenants_eval (staff : StaffContext) (db : Database) :
    ∃ tenants, (listAccessibleTenants staff).eval db = (.ok tenants, db) ∧
      ∀ casinoGroupId, casinoGroupId ∈ tenants.map TenantListItem.id ↔
        ∃ group ∈ db.catalog.casinoGroups, group.id = casinoGroupId ∧ Accessible staff db group := by
  unfold listAccessibleTenants Accessible
  cases nonEmpty staff.casinoGroupId with
  | some own =>
      refine ⟨_, rfl, fun casinoGroupId => ?_⟩
      simp only [List.mem_map, Option.mem_toList]
      constructor
      · rintro ⟨item, listed, named⟩
        obtain ⟨group, found, rfl⟩ := Option.map_eq_some_iff.mp listed
        obtain ⟨stored, same⟩ := Table.get?_eq_some_iff.mp found
        exact ⟨group, stored, named, same⟩
      · rintro ⟨group, stored, named, same⟩
        have found := Table.get?_eq_some_iff.mpr ⟨stored, same⟩
        exact ⟨tenantListItem group, by simp [found, tenantListItem], named⟩
  | none =>
      by_cases scope : isPlatformScopeRole staff.roles = true
      · by_cases super : hasStaffRole staff.roles .superAdmin = true
        · refine ⟨byName db.catalog.casinoGroups.rows, by simp [scope, super, read], ?_⟩
          intro casinoGroupId
          rw [mem_byName]
          simp [hasStaffRole_iff.mp super, Table.mem_rows]
        · have platform : hasStaffRole staff.roles .platformAdmin = true := by
            rw [hasStaffRole_iff] at super ⊢
            exact (isPlatformScopeRole_iff.mp scope).resolve_left super
          refine ⟨byName (grantedGroups staff.staffUserId db),
            by simp [scope, super, platform, read], fun casinoGroupId => ?_⟩
          rw [hasStaffRole_iff] at super platform
          rw [mem_byName]
          simp only [mem_grantedGroups, super, platform, false_or, true_and, and_assoc]
          grind
      · refine ⟨[], by simp [scope], fun casinoGroupId => ?_⟩
        rw [isPlatformScopeRole_iff, not_or] at scope
        simp [scope]

/-- The check lets through exactly the groups of the policy. -/
theorem assertCasinoGroupAccess_eval (staff : StaffContext) (casinoGroupId : String)
    (db : Database) :
    ((assertCasinoGroupAccess staff casinoGroupId).eval db).1 = .ok () ↔
      ∃ group ∈ db.catalog.casinoGroups, group.id = casinoGroupId ∧ Accessible staff db group := by
  unfold assertCasinoGroupAccess read
  rw [Program.eval_read_bind]
  cases found : db.catalog.casinoGroups.get? casinoGroupId with
  | none =>
      rw [Table.get?_eq_none_iff] at found
      constructor
      · intro impossible
        cases impossible
      · intro ⟨group, stored, same, _⟩
        exact absurd same (found group stored)
  | some group =>
      obtain ⟨stored, rfl⟩ := Table.get?_eq_some_iff.mp found
      have only : (∃ other ∈ db.catalog.casinoGroups, other.id = group.id ∧
          Accessible staff db other) ↔ Accessible staff db group := by
        constructor
        · intro ⟨other, present, same, accessible⟩
          rwa [Table.eq_of_key present stored same] at accessible
        · intro accessible
          exact ⟨group, stored, rfl, accessible⟩
      rw [only]
      unfold Accessible
      cases nonEmpty staff.casinoGroupId with
      | some own =>
          by_cases same : own = group.id
          · simp [same]
          · simp [same, Ne.symm same]
      | none =>
          by_cases scope : isPlatformScopeRole staff.roles = true
          · by_cases super : hasStaffRole staff.roles .superAdmin = true
            · simp [scope, super, hasStaffRole_iff.mp super]
            · have platform : hasStaffRole staff.roles .platformAdmin = true := by
                rw [hasStaffRole_iff] at super ⊢
                exact (isPlatformScopeRole_iff.mp scope).resolve_left super
              have roles := And.intro (mt hasStaffRole_iff.mpr super) (hasStaffRole_iff.mp platform)
              cases grant : db.staff.access.get? (staff.staffUserId, group.id) with
              | none =>
                  have missing := Table.get?_eq_none_iff.mp grant
                  simpa [scope, super, platform, roles, grant] using missing
              | some row =>
                  have granted := Table.get?_eq_some_iff.mp grant
                  simpa [scope, super, platform, roles, grant] using ⟨row, granted⟩
          · have roles := mt isPlatformScopeRole_iff.mpr scope
            rw [not_or] at roles
            simp [scope, roles]

/-- What is resolved is the member's own group, or a requested one of the policy. -/
theorem resolveCasinoGroupId_eval (staff : StaffContext) (requestedGroupId : Option String)
    (db : Database) (resolved : String) :
    ((resolveCasinoGroupId staff requestedGroupId).eval db).1 = .ok resolved ↔
      nonEmpty staff.casinoGroupId = some resolved ∧
          (∀ requested, nonEmpty requestedGroupId = some requested → requested = resolved) ∨
        nonEmpty staff.casinoGroupId = none ∧ nonEmpty requestedGroupId = some resolved ∧
          ((assertCasinoGroupAccess staff resolved).eval db).1 = .ok () := by
  unfold resolveCasinoGroupId
  cases nonEmpty staff.casinoGroupId with
  | some own =>
      cases nonEmpty requestedGroupId with
      | none => simp
      | some requested =>
          by_cases same : requested = own
          · simp [same]
          · simp only [same, ne_eq, not_false_eq_true, if_true, Program.throw_eq, Program.eval_done]
            grind
  | none =>
      cases nonEmpty requestedGroupId with
      | none => simp
      | some requested =>
          simp only [Program.eval_bind]
          cases asserted : (assertCasinoGroupAccess staff requested).eval db with
          | mk outcome after =>
              cases outcome with
              | error failure => grind [Program.eval_done]
              | ok value => grind [Program.eval_done, Program.pure_eq]

/-- The check agrees with the listing, and what is resolved is the member's own
group or a requested one that is listed. -/
theorem assertCasinoGroupAccess_iff_listed (staff : StaffContext) (db : Database) :
    ∃ tenants, (listAccessibleTenants staff).eval db = (.ok tenants, db) ∧
      (∀ casinoGroupId, ((assertCasinoGroupAccess staff casinoGroupId).eval db).1 = .ok () ↔
        casinoGroupId ∈ tenants.map TenantListItem.id) ∧
      (∀ requestedGroupId resolved,
        ((resolveCasinoGroupId staff requestedGroupId).eval db).1 = .ok resolved →
          staff.casinoGroupId = some resolved ∨
            requestedGroupId = some resolved ∧ resolved ∈ tenants.map TenantListItem.id) ∧
      ∀ own requestedGroupId other, nonEmpty staff.casinoGroupId = some own →
        nonEmpty requestedGroupId = some other → other ≠ own →
          ((resolveCasinoGroupId staff requestedGroupId).eval db).1 =
            .error (.forbidden "Cannot access another casino group") := by
  obtain ⟨tenants, listed, members⟩ := listAccessibleTenants_eval staff db
  have agree : ∀ casinoGroupId,
      ((assertCasinoGroupAccess staff casinoGroupId).eval db).1 = .ok () ↔
        casinoGroupId ∈ tenants.map TenantListItem.id := by
    intro casinoGroupId
    rw [assertCasinoGroupAccess_eval, members]
  refine ⟨tenants, listed, agree, ?_, ?_⟩
  · intro requestedGroupId resolved succeeded
    rcases (resolveCasinoGroupId_eval ..).mp succeeded with ⟨own, _⟩ | ⟨_, requested, allowed⟩
    · exact .inl (eq_some_of_nonEmpty own)
    · exact .inr ⟨eq_some_of_nonEmpty requested, (agree resolved).mp allowed⟩
  · intro own requestedGroupId other bound requested differs
    simp [resolveCasinoGroupId, bound, requested, differs]

end Policy

section Sample

def acmeGroup : CasinoGroup :=
  ⟨"acme", "acme", true, "USD", none, none, none, "Acme", "UTC"⟩

/-- Two tenants, one of them granted to a platform admin. -/
def grantedDatabase : Database where
  catalog :=
    { sports := .empty, leagues := .empty, teams := .empty, fixtures := .empty, events := .empty,
      markets := .empty, selections := .empty, oddsSnapshots := [], casinoGroupLeagues := .empty,
      casinoGroups := ⟨[acmeGroup, { acmeGroup with id := "betzone", slug := "betzone" }],
        by decide⟩ }
  ledger := .empty
  audit := []
  staff := { StaffTables.empty with access := ⟨[⟨"admin", "acme"⟩], by decide⟩ }

theorem platformAdmin_has_granted :
    ((assertCasinoGroupAccess ⟨"admin", none, [.platformAdmin, .finance]⟩ "acme").eval
      grantedDatabase).1 = .ok () ∧
    ((resolveCasinoGroupId ⟨"trader", some "acme", [.superAdmin]⟩ (some "betzone")).eval
      grantedDatabase).1 = .error (.forbidden "Cannot access another casino group") := by
  obtain ⟨tenants, listed, agree, _⟩ :=
    assertCasinoGroupAccess_iff_listed ⟨"admin", none, [.platformAdmin, .finance]⟩ grantedDatabase
  obtain ⟨_, _, _, _, foreign⟩ :=
    assertCasinoGroupAccess_iff_listed ⟨"trader", some "acme", [.superAdmin]⟩ grantedDatabase
  refine ⟨(agree "acme").mpr ?_, foreign "acme" _ "betzone" (by decide) (by decide) (by decide)⟩
  have same : tenants = [tenantListItem acmeGroup] := by
    have computed : (listAccessibleTenants ⟨"admin", none, [.platformAdmin, .finance]⟩).eval
        grantedDatabase = (.ok [tenantListItem acmeGroup], grantedDatabase) := by rfl
    rw [listed] at computed
    exact Except.ok.inj (Prod.mk.inj computed).1
  rw [same]
  decide

end Sample

end StaffScopeService

end SportsBetting
