import SportsBetting.Ingestion.Runs
import SportsBetting.Staff.Scope

/-!
# The leagues on offer to a tenant

Platform staff, the tenant's own staff and the catalog ingest all write the same
row. The first two read its lock before they write; the ingest never does.
-/

namespace SportsBetting.Product

open Async Text

structure LeagueOfferingDto where
  leagueId : String
  enabled : Bool

/-- Match configured ingest keys against the league keys of the catalog. -/
def resolveCatalogLeagueKeys (configured catalogLeagueKeys : List String) : List String :=
  if configured = ["all"] then catalogLeagueKeys
  else
    let resolve := fun entry =>
      if entry = "all" then []
      else if entry ∈ catalogLeagueKeys then [entry]
      else catalogLeagueKeys.filter fun key => startsWith key (entry ++ "_")
    (configured.flatMap resolve).eraseDups

section Queries

variable (db : Database)

def isLocked (casinoGroupId league : String) : Bool :=
  ((db.catalog.casinoGroupLeagues.get? (casinoGroupId, league)).map
    CasinoGroupLeague.platformLocked).getD false

/-- The league, and whether its sport is active. -/
def findLeague (leagueId : String) : Option (League × Bool) := do
  let league ← db.catalog.leagues.get? leagueId
  let sport ← db.catalog.sports.get? league.sport
  return (league, sport.active)

/-- A tenant operator's update leaves the lock as it is. -/
def upsertOffering (casinoGroupId leagueId : String)
    (enabled platformLocked operatorOnly : Bool) : Database :=
  let row : CasinoGroupLeague :=
    match db.catalog.casinoGroupLeagues.get? (casinoGroupId, leagueId) with
    | none => ⟨casinoGroupId, leagueId, enabled, platformLocked⟩
    | some row =>
        if operatorOnly then { row with enabled }
        else { row with enabled, platformLocked }
  { db with catalog.casinoGroupLeagues := db.catalog.casinoGroupLeagues.put row }

structure LeagueOffering where
  leagueId : String
  key : String
  name : String
  region : Option String
  sportKey : String
  sportName : String
  enabled : Bool
  platformLocked : Bool
  deriving DecidableEq

def leagueOffering (casinoGroupId : String) (league : League) : Option LeagueOffering := do
  let sport ← db.catalog.sports.get? league.sport
  let row := db.catalog.casinoGroupLeagues.get? (casinoGroupId, league.key)
  return {
    leagueId := league.key
    key := league.key
    name := league.name
    region := league.region
    sportKey := sport.key
    sportName := sport.name
    enabled := (row.map CasinoGroupLeague.enabled).getD true
    platformLocked := (row.map CasinoGroupLeague.platformLocked).getD false }

/-- By the name of the sport, then by their own. -/
def leagueOfferings (casinoGroupId : String) (allowedKeys : List String) : List LeagueOffering :=
  ((db.catalog.leagues.rows.filter fun league =>
      league.active && decide (league.key ∈ allowedKeys)).filterMap
    (leagueOffering db casinoGroupId)).insertionSort fun first second =>
      first.sportName < second.sportName ∨
        (first.sportName = second.sportName ∧ first.name ≤ second.name)

end Queries

section Service

variable (configured : List String)

def assertCasinoGroup (casinoGroupId : String) : Service Unit := do
  let group ← read fun db => db.catalog.casinoGroups.get? casinoGroupId
  match group with
  | none => throw (.notFound "Casino group not found")
  | some _ => pure ()

def allowedCatalogLeagueKeys : Service (List String) := do
  let catalogKeys ← read fun db =>
    (db.catalog.leagues.rows.filter League.active).map League.key
  pure (resolveCatalogLeagueKeys configured catalogKeys)

def listLeagues (casinoGroupId : String) : Service (List LeagueOffering) := do
  assertCasinoGroup casinoGroupId
  let allowedKeys ← allowedCatalogLeagueKeys configured
  if allowedKeys.isEmpty then pure []
  else read fun db => leagueOfferings db casinoGroupId allowedKeys

structure Offering where
  casinoGroupId : String
  leagueId : String
  leagueKey : String
  staffUserId : String
  existing : Option CasinoGroupLeague
  enabled : Bool
  platformLocked : Bool
  operatorOnly : Bool

def Offering.changed (input : Offering) : Bool :=
  match input.existing with
  | none => true
  | some existing =>
      existing.enabled ≠ input.enabled ||
        (!input.operatorOnly && existing.platformLocked ≠ input.platformLocked)

def Offering.entry (input : Offering) : AuditEntry where
  actorType := "staff"
  actorId := input.staffUserId
  casinoGroupId := input.casinoGroupId
  action := "product.league_offering_updated"
  entityType := "CasinoGroupLeague"
  entityId := input.casinoGroupId ++ ":" ++ input.leagueId
  before := (input.existing.map fun existing =>
    [("enabled", toString existing.enabled), ("platformLocked", toString existing.platformLocked),
      ("leagueKey", input.leagueKey)]).getD []
  after := [("enabled", toString input.enabled),
    ("platformLocked", toString input.platformLocked), ("leagueKey", input.leagueKey)]
  reason := none

def persistOffering (input : Offering) : Service Unit := do
  write fun db => upsertOffering db input.casinoGroupId input.leagueId input.enabled
    input.platformLocked input.operatorOnly
  if input.changed then recordAudit input.entry else pure ()

def updateLeague (casinoGroupId : String) (allowedKeys : List String) (staff : StaffContext)
    (item : LeagueOfferingDto) : Service Unit := do
  let league ← read fun db => findLeague db item.leagueId
  match league with
  | none => throw (.notFound ("League " ++ item.leagueId ++ " not found"))
  | some (league, sportActive) =>
      if league.key ∉ allowedKeys then
        throw (.badRequest ("League " ++ league.key ++
          " is outside the configured catalog ingest scope (ODDS_API_SPORT_KEYS)"))
      else do
        let existing ← read fun db =>
          db.catalog.casinoGroupLeagues.get? (casinoGroupId, item.leagueId)
        let locked := (existing.map CasinoGroupLeague.platformLocked).getD false
        let catalogActive := league.active && sportActive
        let inactive : Failure := .badRequest (league.key ++
          " is disabled at the platform catalog level and cannot be enabled")
        let input := fun platformLocked operatorOnly =>
          Offering.mk casinoGroupId item.leagueId league.key staff.staffUserId existing item.enabled
            platformLocked operatorOnly
        if !isPlatformStaff staff then
          if item.enabled && locked then
            throw (.badRequest (league.key ++
              " was disabled by platform administrators and cannot be re-enabled"))
          else if item.enabled && !catalogActive then throw inactive
          else persistOffering (input locked true)
        else if item.enabled && !catalogActive then throw inactive
        else persistOffering (input (!item.enabled) false)

def updateLeagues (casinoGroupId : String) (leagues : List LeagueOfferingDto)
    (staff : StaffContext) : Service (List LeagueOffering) := do
  assertCasinoGroup casinoGroupId
  let allowedKeys ← allowedCatalogLeagueKeys configured
  leagues.forM (updateLeague casinoGroupId allowedKeys staff)
  listLeagues configured casinoGroupId

end Service

section Locks

/-- What the platform disabled for a tenant is not on offer there. -/
def LockedDisabled (db : Database) : Prop :=
  ∀ row ∈ db.catalog.casinoGroupLeagues, row.platformLocked = true → row.enabled = false

instance (db : Database) : Decidable (LockedDisabled db) :=
  inferInstanceAs (Decidable (∀ row ∈ db.catalog.casinoGroupLeagues.rows,
    row.platformLocked = true → row.enabled = false))

def setOffering (db : Database) (casinoGroupId league : String) (enabled locked : Bool) : Database :=
  { db with
    catalog.casinoGroupLeagues :=
      db.catalog.casinoGroupLeagues.put ⟨casinoGroupId, league, enabled, locked⟩ }

variable {db : Database} {casinoGroupId league : String}

theorem isLocked_set (enabled locked : Bool) (otherGroup otherLeague : String) :
    isLocked (setOffering db casinoGroupId league enabled locked) otherGroup otherLeague =
      if (casinoGroupId, league) = (otherGroup, otherLeague) then locked
      else isLocked db otherGroup otherLeague := by
  unfold isLocked setOffering
  rw [Table.get?_put, CasinoGroupLeague.key]
  dsimp only
  by_cases same : (casinoGroupId, league) = (otherGroup, otherLeague)
  · rw [if_pos same, if_pos same]
    rfl
  · rw [if_neg same, if_neg same]

theorem leagueEnabled_of_locked (sound : LockedDisabled db)
    (locked : isLocked db casinoGroupId league = true) :
    leagueEnabled db casinoGroupId league = false := by
  unfold isLocked at locked
  unfold leagueEnabled
  cases found : db.catalog.casinoGroupLeagues.get? (casinoGroupId, league) with
  | none => rfl
  | some row =>
      rw [found] at locked
      exact sound row (Table.get?_eq_some_iff.mp found).1 locked

theorem lockedDisabled_set (sound : LockedDisabled db) (enabled locked : Bool) :
    LockedDisabled (setOffering db casinoGroupId league enabled locked) ↔
      (locked = true → enabled = false) := by
  constructor
  · intro kept
    exact kept _ (Table.mem_put_self _ _)
  · intro consistent row stored held
    rcases Table.mem_put.mp stored with rfl | ⟨old, _⟩
    · exact consistent held
    · exact sound row old held

theorem lockedDisabled_congr {after : Database}
    (same : after.catalog.casinoGroupLeagues = db.catalog.casinoGroupLeagues) :
    LockedDisabled after ↔ LockedDisabled db := by
  rw [LockedDisabled, LockedDisabled, same]

theorem isLocked_congr {after : Database}
    (same : after.catalog.casinoGroupLeagues = db.catalog.casinoGroupLeagues) :
    isLocked after casinoGroupId league = isLocked db casinoGroupId league := by
  rw [isLocked, isLocked, same]

section Upserts

theorem upsertGroupLeague_eq (enabled : Bool) :
    Ingestion.upsertGroupLeague db casinoGroupId league enabled =
      setOffering db casinoGroupId league enabled (isLocked db casinoGroupId league) := rfl

theorem upsertOffering_platform (enabled locked : Bool) :
    upsertOffering db casinoGroupId league enabled locked false =
      setOffering db casinoGroupId league enabled locked := by
  unfold upsertOffering setOffering
  cases found : db.catalog.casinoGroupLeagues.get? (casinoGroupId, league) with
  | none => rfl
  | some row =>
      have same := (Table.get?_eq_some_iff.mp found).2
      simp only [CasinoGroupLeague.key, Prod.mk.injEq] at same
      simp [← same.1, ← same.2]

/-- A tenant operator writes the lock only where there is no row yet. -/
theorem upsertOffering_operator (db : Database) (casinoGroupId league : String)
    (enabled locked : Bool) :
    upsertOffering db casinoGroupId league enabled locked true =
        setOffering db casinoGroupId league enabled (isLocked db casinoGroupId league) ∨
      isLocked db casinoGroupId league = false ∧
        upsertOffering db casinoGroupId league enabled locked true =
          setOffering db casinoGroupId league enabled locked := by
  unfold upsertOffering setOffering isLocked
  cases found : db.catalog.casinoGroupLeagues.get? (casinoGroupId, league) with
  | none => exact .inr ⟨rfl, rfl⟩
  | some row =>
      have same := (Table.get?_eq_some_iff.mp found).2
      simp only [CasinoGroupLeague.key, Prod.mk.injEq] at same
      exact .inl (by simp [← same.1, ← same.2])

end Upserts

end Locks

section Calls

/-- What platform staff, tenant staff and the catalog ingest write to the rows of
the tenants. Tenant staff never enables a league that it read as locked. -/
inductive Offers : {Reply : Type} → Query Database Failure Reply → Prop
  | other {Reply : Type} {query : Query Database Failure Reply}
      (same : ∀ db, (query db).2.catalog.casinoGroupLeagues = db.catalog.casinoGroupLeagues) :
      Offers query
  | ingest (casinoGroupId league : String) (enabled : Bool) :
      Offers (Query.write fun db => Ingestion.upsertGroupLeague db casinoGroupId league enabled)
  | tenantStaff (casinoGroupId league : String) (enabled locked : Bool)
      (allowed : locked = true → enabled = false) :
      Offers (Query.write fun db => upsertOffering db casinoGroupId league enabled locked true)
  | platformStaff (casinoGroupId league : String) (enabled : Bool) :
      Offers (Query.write fun db => upsertOffering db casinoGroupId league enabled (!enabled) false)

/-- The upserts that enable a league without platform staff. -/
inductive Enables (casinoGroupId league : String) :
    {Reply : Type} → Query Database Failure Reply → Prop
  | ingest : Enables casinoGroupId league
      (Query.write fun db => Ingestion.upsertGroupLeague db casinoGroupId league true)
  | tenantStaff : Enables casinoGroupId league
      (Query.write fun db => upsertOffering db casinoGroupId league true false true)

/-- Platform staff enables a league. -/
inductive Reenables (casinoGroupId league : String) :
    {Reply : Type} → Query Database Failure Reply → Prop
  | platformStaff : Reenables casinoGroupId league
      (Query.write fun db => upsertOffering db casinoGroupId league true false false)

/-- Who enables a league without platform staff finds it unlocked. -/
def FindsUnlocked : Guard databaseMachine := fun config choice request =>
  choice = Fault.refused ∨ ∀ casinoGroupId league, Enables casinoGroupId league request →
    isLocked config.state casinoGroupId league = false

def NotReenabled (casinoGroupId league : String) : Guard databaseMachine :=
  fun _ choice request => choice = Fault.refused ∨ ¬ Reenables casinoGroupId league request

inductive OfferingCall
  | updateLeagues (casinoGroupId : String) (leagues : List LeagueOfferingDto) (staff : StaffContext)
  | syncTenantLeagues (slug : String) (offeredLeagueKeys : List String)

def OfferingCall.program (configured : List String) : OfferingCall → Service Unit
  | .updateLeagues casinoGroupId leagues staff =>
      (Product.updateLeagues configured casinoGroupId leagues staff).void
  | .syncTenantLeagues slug offeredLeagueKeys =>
      Ingestion.syncTenantLeagues slug offeredLeagueKeys

/-- Any number of calls that interleave. -/
def offering (configured : List String) (calls : List OfferingCall) (db : Database) :
    Config databaseMachine :=
  ⟨db, calls.map (OfferingCall.program configured)⟩

section Programs

theorem recordAudit_offers (entry : AuditEntry) : (recordAudit entry).CallsOnly Offers := by
  unfold recordAudit write
  exact Program.CallsOnly.handle ((Program.callsOnly_call _).mpr (.other fun _ => rfl))
    fun _ => trivial

theorem read_offers {α : Type} (view : Database → α) : (read view).CallsOnly Offers :=
  (Program.callsOnly_call _).mpr (.other fun _ => rfl)

theorem assertCasinoGroup_offers (casinoGroupId : String) :
    (assertCasinoGroup casinoGroupId).CallsOnly Offers := by
  refine (read_offers _).bind fun group => ?_
  cases group with
  | none => trivial
  | some group => trivial

theorem allowedCatalogLeagueKeys_offers (configured : List String) :
    (allowedCatalogLeagueKeys configured).CallsOnly Offers :=
  (read_offers _).bind fun _ => trivial

theorem listLeagues_offers (configured : List String) (casinoGroupId : String) :
    (listLeagues configured casinoGroupId).CallsOnly Offers := by
  refine (assertCasinoGroup_offers casinoGroupId).bind fun _ => ?_
  refine (allowedCatalogLeagueKeys_offers configured).bind fun allowedKeys => ?_
  split
  · trivial
  · exact read_offers _

theorem persistOffering_offers {input : Offering}
    (upsert : Offers (Query.write fun db => upsertOffering db input.casinoGroupId input.leagueId
      input.enabled input.platformLocked input.operatorOnly)) :
    (persistOffering input).CallsOnly Offers := by
  refine Program.CallsOnly.bind ((Program.callsOnly_call _).mpr upsert) fun _ => ?_
  split
  · exact recordAudit_offers _
  · trivial

theorem updateLeague_offers (casinoGroupId : String) (allowedKeys : List String)
    (staff : StaffContext) (item : LeagueOfferingDto) :
    (updateLeague casinoGroupId allowedKeys staff item).CallsOnly Offers := by
  refine (read_offers _).bind fun league => ?_
  rcases league with _ | ⟨league, sportActive⟩
  · trivial
  dsimp only
  split
  · trivial
  refine (read_offers _).bind fun existing => ?_
  split
  · -- tenant staff
    split
    · trivial
    · next unlocked =>
        split
        · trivial
        · refine persistOffering_offers (.tenantStaff _ _ _ _ fun locked => ?_)
          dsimp only at locked ⊢
          rw [locked, Bool.and_true] at unlocked
          simpa using unlocked
  · -- platform staff
    split
    · trivial
    · exact persistOffering_offers (.platformStaff _ _ _)

theorem syncTenantLeagues_offers (slug : String) (offeredLeagueKeys : List String) :
    (Ingestion.syncTenantLeagues slug offeredLeagueKeys).CallsOnly Offers := by
  refine (read_offers _).bind fun group => ?_
  cases group with
  | none => trivial
  | some group =>
      refine (read_offers _).bind fun leagues => Program.CallsOnly.forM (fun league => ?_) leagues
      refine (read_offers _).bind fun existing => ?_
      refine Program.CallsOnly.bind ((Program.callsOnly_call _).mpr (.ingest _ _ _)) fun _ => ?_
      split
      · trivial
      · exact recordAudit_offers _

theorem OfferingCall.program_offers (configured : List String) (call : OfferingCall) :
    (call.program configured).CallsOnly Offers := by
  cases call with
  | updateLeagues casinoGroupId leagues staff =>
      refine Program.CallsOnly.void ((assertCasinoGroup_offers casinoGroupId).bind fun _ => ?_)
      refine (allowedCatalogLeagueKeys_offers configured).bind fun allowedKeys => ?_
      refine (Program.CallsOnly.forM (fun item => ?_) leagues).bind fun _ => ?_
      · exact updateLeague_offers casinoGroupId allowedKeys staff item
      · exact listLeagues_offers configured casinoGroupId
  | syncTenantLeagues slug offeredLeagueKeys =>
      exact syncTenantLeagues_offers slug offeredLeagueKeys

end Programs

section Steps

variable {Reply : Type} {request : Query Database Failure Reply} {db : Database}

/-- One call keeps the invariant exactly if it enables no locked league. -/
theorem Offers.lockedDisabled (offers : Offers request) (sound : LockedDisabled db) :
    LockedDisabled (request db).2 ↔ ∀ casinoGroupId league,
      Enables casinoGroupId league request → isLocked db casinoGroupId league = false := by
  constructor
  · intro kept casinoGroupId league enables
    cases enables with
    | ingest =>
        have unlocked := (lockedDisabled_set sound true
          (isLocked db casinoGroupId league)).mp kept
        simpa using unlocked
    | tenantStaff =>
        rcases upsertOffering_operator db casinoGroupId league true false with same | ⟨unlocked, _⟩
        · dsimp only [Query.write] at kept
          rw [same] at kept
          simpa using (lockedDisabled_set sound _ _).mp kept
        · exact unlocked
  · intro unlocked
    cases offers with
    | other same => exact (lockedDisabled_congr (same db)).mpr sound
    | ingest casinoGroupId league enabled =>
        refine (lockedDisabled_set sound enabled _).mpr fun locked => ?_
        cases enabled with
        | false => rfl
        | true => cases (unlocked _ _ .ingest).symm.trans locked
    | tenantStaff casinoGroupId league enabled locked allowed =>
        dsimp only [Query.write]
        rcases upsertOffering_operator db casinoGroupId league enabled locked with same | ⟨_, same⟩
        · rw [same]
          refine (lockedDisabled_set sound _ _).mpr fun held => ?_
          cases enabled with
          | false => rfl
          | true =>
              obtain rfl : locked = false := by simpa using mt allowed (by simp)
              rw [unlocked _ _ .tenantStaff] at held
              cases held
        · rw [same]
          exact (lockedDisabled_set sound _ _).mpr allowed
    | platformStaff casinoGroupId league enabled =>
        dsimp only [Query.write]
        rw [upsertOffering_platform]
        exact (lockedDisabled_set sound _ _).mpr fun locked => by simpa using locked

/-- Only platform staff takes a lock away. -/
theorem Offers.isLocked (offers : Offers request) {casinoGroupId league : String}
    (locked : isLocked db casinoGroupId league = true)
    (kept : ¬ Reenables casinoGroupId league request) :
    Product.isLocked (request db).2 casinoGroupId league = true := by
  cases offers with
  | other same => rwa [isLocked_congr (same db)]
  | ingest group other enabled =>
      dsimp only [Query.write]
      rw [upsertGroupLeague_eq, isLocked_set]
      split
      · next same =>
          obtain ⟨rfl, rfl⟩ := Prod.mk.inj same
          exact locked
      · exact locked
  | tenantStaff group other enabled asked allowed =>
      dsimp only [Query.write]
      rcases upsertOffering_operator db group other enabled asked with same | ⟨unlocked, same⟩
      all_goals
        rw [same, isLocked_set]
        split
      · next key =>
          obtain ⟨rfl, rfl⟩ := Prod.mk.inj key
          exact locked
      · exact locked
      · next key =>
          obtain ⟨rfl, rfl⟩ := Prod.mk.inj key
          rw [unlocked] at locked
          cases locked
      · exact locked
  | platformStaff group other enabled =>
      dsimp only [Query.write]
      rw [upsertOffering_platform, isLocked_set]
      split
      · next key =>
          obtain ⟨rfl, rfl⟩ := Prod.mk.inj key
          cases enabled with
          | false => rfl
          | true => exact absurd .platformStaff kept
      · exact locked

end Steps

theorem offering_pool (configured : List String) (calls : List OfferingCall) (db : Database) :
    ∀ program ∈ (offering configured calls db).pool, program.CallsOnly Offers := by
  intro program member
  obtain ⟨call, _, rfl⟩ := List.mem_map.mp member
  exact call.program_offers configured

/-- The platform's decisions hold in every state of a run exactly if every upsert
that enables a league without platform staff finds it unlocked; then a locked
league stays locked and disabled until platform staff enables it. -/
theorem lockedDisabled_iff_follows {configured : List String} {calls : List OfferingCall}
    {db : Database} (start : LockedDisabled db) (moves : List (Move databaseMachine)) :
    ((offering configured calls db).Follows FindsUnlocked moves ↔
      ∀ after, (offering configured calls db).Passes moves after → LockedDisabled after) ∧
    ∀ earlier later casinoGroupId league, moves = earlier ++ later →
      (offering configured calls db).Follows FindsUnlocked moves →
      isLocked ((offering configured calls db).run earlier).state casinoGroupId league = true →
      ((offering configured calls db).run earlier).Follows (NotReenabled casinoGroupId league)
        later →
      isLocked ((offering configured calls db).run moves).state casinoGroupId league = true ∧
        leagueEnabled ((offering configured calls db).run moves).state casinoGroupId league =
          false := by
  have pool := offering_pool configured calls db
  have exact_guard : (offering configured calls db).Follows FindsUnlocked moves ↔
      ∀ after, (offering configured calls db).Passes moves after → LockedDisabled after := by
    refine Config.follows_iff_invariant FindsUnlocked LockedDisabled ?_ (fun event => nomatch event)
      pool start
    intro config choice Reply request offers sound
    cases choice with
    | refused => exact ⟨fun _ => .inl rfl, fun _ => sound⟩
    | none =>
        refine (offers.lockedDisabled sound).trans ⟨.inr, ?_⟩
        exact fun guarded => guarded.resolve_left (by simp)
    | unacknowledged =>
        refine (offers.lockedDisabled sound).trans ⟨.inr, ?_⟩
        exact fun guarded => guarded.resolve_left (by simp)
  refine ⟨exact_guard, fun earlier later casinoGroupId league split followed locked kept => ?_⟩
  have held : isLocked ((offering configured calls db).run moves).state casinoGroupId league =
      true := by
    rw [split, Config.run_append]
    refine Config.state_invariant (NotReenabled casinoGroupId league)
      (fun db : Database => isLocked db casinoGroupId league = true) ?_ (fun event => nomatch event)
      (Config.callsOnly_run pool earlier) locked kept
    intro config choice Reply request offers guarded locked
    cases choice with
    | refused => exact locked
    | none => exact offers.isLocked locked (guarded.resolve_left (by simp))
    | unacknowledged => exact offers.isLocked locked (guarded.resolve_left (by simp))
  exact ⟨held, leagueEnabled_of_locked (exact_guard.mp followed _ ⟨moves, [], by simp, rfl⟩) held⟩

end Calls

section Sample

open Ingestion

def platformStaff : StaffContext := ⟨"admin", none, [.superAdmin]⟩

def tenantStaff : StaffContext := ⟨"operator", some "group", [.operatorAdmin]⟩

def setNba (enabled : Bool) (staff : StaffContext) : OfferingCall :=
  .updateLeagues "group" [⟨"basketball_nba", enabled⟩] staff

/-- Platform staff disables the league, tenant staff enables it, and the catalog is ingested. -/
def nbaOffering : Config databaseMachine :=
  offering ["all"] [setNba false platformStaff, setNba true tenantStaff,
    .syncTenantLeagues "acme" ACME_LEAGUE_PREFIXES] openDatabase

/-- The ingest follows the update. -/
def disabledThenIngested : List (Move databaseMachine) :=
  List.replicate 9 (.run 0 .none) ++ List.replicate 5 (.run 2 .none)

/-- Tenant staff has read the row before platform staff disables the league. -/
def disabledWhileUpdating : List (Move databaseMachine) :=
  List.replicate 4 (.run 1 .none) ++ List.replicate 9 (.run 0 .none) ++
    List.replicate 5 (.run 1 .none)

theorem locked_league_enabled :
    LockedDisabled openDatabase ∧
    isLocked (nbaOffering.run disabledThenIngested).state "group" "basketball_nba" = true ∧
    leagueEnabled (nbaOffering.run disabledThenIngested).state "group" "basketball_nba" = true ∧
    isLocked (nbaOffering.run disabledWhileUpdating).state "group" "basketball_nba" = true ∧
    leagueEnabled (nbaOffering.run disabledWhileUpdating).state "group" "basketball_nba" = true ∧
    ¬ ∀ configured calls db moves, LockedDisabled db →
      LockedDisabled ((offering configured calls db).run moves).state := by
  have start : LockedDisabled openDatabase := by decide +kernel
  refine ⟨start, by decide +kernel, by decide +kernel, by decide +kernel, by decide +kernel, ?_⟩
  intro always
  have broken : ¬ LockedDisabled (nbaOffering.run disabledThenIngested).state := by decide +kernel
  exact broken (always _ _ _ _ start)

/-- Tenant staff reads the row after platform staff has disabled the league. -/
def disabledThenUpdated : List (Move databaseMachine) :=
  List.replicate 9 (.run 0 .none) ++ List.replicate 5 (.run 1 .none)

theorem disabled_stays_disabled :
    nbaOffering.Follows FindsUnlocked disabledThenUpdated ∧
    isLocked (nbaOffering.run disabledThenUpdated).state "group" "basketball_nba" = true ∧
    leagueEnabled (nbaOffering.run disabledThenUpdated).state "group" "basketball_nba" = false := by
  have start : LockedDisabled openDatabase := by decide +kernel
  have each : ∀ count ∈ List.range 15,
      LockedDisabled (nbaOffering.run (disabledThenUpdated.take count)).state := by decide +kernel
  obtain ⟨exact_guard, persists⟩ := lockedDisabled_iff_follows start disabledThenUpdated
  have followed : nbaOffering.Follows FindsUnlocked disabledThenUpdated := by
    refine exact_guard.mpr ?_
    rintro _ ⟨earlier, later, split, rfl⟩
    have bound : earlier.length + later.length = 14 := by
      rw [← List.length_append, ← split]
      rfl
    have kept := each earlier.length (List.mem_range.mpr (by omega))
    rwa [split, List.take_left] at kept
  have locked : isLocked (nbaOffering.run disabledThenUpdated).state "group" "basketball_nba" =
      true := by decide +kernel
  exact ⟨followed, persists disabledThenUpdated [] _ _ (List.append_nil _).symm followed locked
    trivial⟩

end Sample

end SportsBetting.Product
