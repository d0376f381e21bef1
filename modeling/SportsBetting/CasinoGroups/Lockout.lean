import SportsBetting.CasinoGroups.Service
import SportsBetting.Staff.Scope

/-!
# A tenant that is disabled is locked out

A resolver that has read the tenant before the update may write it back to the cache
after the keys were deleted. As long as none does, the tenant is not resolved again.
-/

namespace SportsBetting.CasinoGroups

open Async

variable {casinoGroupId slug : String} {closed : Prop} {state : State}

/-- The tenant, where it is stored, has the slug. -/
def Named (casinoGroupId slug : String) (db : Database) : Prop :=
  ∀ group ∈ db.catalog.casinoGroups, group.id = casinoGroupId → group.slug = slug

/-- The tenant is cached under the keys of its slug and its id only. -/
def Sited (casinoGroupId slug : String) (state : State) : Prop :=
  Named casinoGroupId slug state.db ∧
    ∀ entry ∈ state.cache, entry.group.id = casinoGroupId →
      entry.key ∈ cacheKeys casinoGroupId slug

/-- The tenant is disabled, its keys have been deleted since, and it is not cached. -/
structure Shut (casinoGroupId : String) (state : State) : Prop where
  disabled : Disabled casinoGroupId state.db
  closed : casinoGroupId ∈ state.closed
  uncached : ∀ entry ∈ state.cache, entry.group.id ≠ casinoGroupId

section Calls

def written {Reply : Type} :
    Joint CacheCall (Query Database Failure) Reply → Option CasinoGroupContext
  | .own call => call.writes
  | .other _ => none

/-- No tenant is written to the cache whose keys were deleted while it was disabled. -/
def NotWrittenBack : Guard cacheMachine := fun config fault request =>
  fault = Fault.refused ∨ ∀ group ∈ written request, group.id ∉ config.state.closed

instance (config : Config cacheMachine) (fault : Fault) {Reply : Type}
    (request : Joint CacheCall (Query Database Failure) Reply) :
    Decidable (NotWrittenBack config fault request) :=
  inferInstanceAs (Decidable (fault = Fault.refused ∨
    ∀ group ∈ written request, group.id ∉ config.state.closed))

def CacheCall.Proper (casinoGroupId slug : String) {Reply : Type} : CacheCall Reply → Prop
  | .set key group => group.id = casinoGroupId → key ∈ cacheKeys casinoGroupId slug
  | _ => True

/-- The tenant is cached under its own keys, and no query renames or enables it. -/
def Proper (casinoGroupId slug : String) {Reply : Type} :
    Joint CacheCall (Query Database Failure) Reply → Prop
  | .own call => call.Proper casinoGroupId slug
  | .other query => ∀ db,
      (Named casinoGroupId slug db → Named casinoGroupId slug (query db).2) ∧
      (Disabled casinoGroupId db → Disabled casinoGroupId (query db).2)

variable {Reply : Type} {request : Joint CacheCall (Query Database Failure) Reply}

theorem Proper.sited (proper : Proper casinoGroupId slug request) (fault : Fault)
    (sited : Sited casinoGroupId slug state) :
    Sited casinoGroupId slug (cacheMachine.perform fault request state).2 := by
  rcases Server.perform_cases server fault request state with same | ⟨_, same⟩
  · rwa [same]
  · rw [same]
    cases request with
    | other query => exact ⟨(proper state.db).1 sited.1, sited.2⟩
    | own call =>
        cases call with
        | get key => exact sited
        | set key group =>
            refine ⟨sited.1, fun entry stored own => ?_⟩
            rcases Table.mem_put.mp stored with rfl | ⟨old, _⟩
            · exact proper own
            · exact sited.2 entry old own
        | del group =>
            exact ⟨sited.1, fun entry stored own =>
              sited.2 entry (Table.mem_deleteWhere.mp stored).1 own⟩

theorem Proper.disabled (proper : Proper casinoGroupId slug request) (fault : Fault)
    (disabled : Disabled casinoGroupId state.db) :
    Disabled casinoGroupId (cacheMachine.perform fault request state).2.db := by
  rcases Server.perform_cases server fault request state with same | ⟨_, same⟩
  · rwa [same]
  · rw [same]
    cases request with
    | other query => exact (proper state.db).2 disabled
    | own call => cases call <;> exact disabled

/-- The tenant stays shut unless it is written back. -/
theorem Proper.shut (proper : Proper casinoGroupId slug request) (fault : Fault)
    (kept : fault = Fault.refused ∨ ∀ group ∈ written request, group.id ∉ state.closed)
    (shut : Shut casinoGroupId state) :
    Shut casinoGroupId (cacheMachine.perform fault request state).2 := by
  refine ⟨proper.disabled fault shut.disabled, ?_, ?_⟩ <;>
    rcases Server.perform_cases server fault request state with same | ⟨ran, same⟩ <;>
    rw [same]
  · exact shut.closed
  · cases request with
    | other query => exact shut.closed
    | own call =>
        cases call with
        | del group => exact List.mem_append_right _ shut.closed
        | _ => exact shut.closed
  · exact shut.uncached
  · cases request with
    | other query => exact shut.uncached
    | own call =>
        cases call with
        | get key => exact shut.uncached
        | del group =>
            exact fun entry stored => shut.uncached entry (Table.mem_deleteWhere.mp stored).1
        | set key group =>
            intro entry stored own
            rcases Table.mem_put.mp stored with rfl | ⟨old, _⟩
            · exact kept.resolve_left ran group rfl (own ▸ shut.closed)
            · exact shut.uncached entry old own

end Calls

section Contract

/-- Resolvers and patches that leave a tenant disabled; `closed` where it is shut. -/
def serving (casinoGroupId slug : String) (closed : Prop) : Contract cacheMachine where
  invariant state := Sited casinoGroupId slug state ∧ (closed → Shut casinoGroupId state)
  rely _ before after :=
    (Disabled casinoGroupId before.db → Disabled casinoGroupId after.db) ∧
    (Shut casinoGroupId before → Shut casinoGroupId after)
  proper request _ := Proper casinoGroupId slug request
  admits state fault request :=
    fault = Fault.refused ∨ ∀ group ∈ written request, group.id ∉ state.closed

theorem serving_stable : (serving casinoGroupId slug closed).Stable where
  refl _ _ := ⟨id, id⟩
  trans _ _ _ _ first second := ⟨second.1 ∘ first.1, second.2 ∘ first.2⟩
  keeps _ fault _ sound proper admitted :=
    ⟨proper.sited fault sound.1, fun past => proper.shut fault admitted (sound.2 past)⟩
  sound _ _ sound := ⟨sound.1, fun past =>
    ⟨(sound.2 past).disabled, (sound.2 past).closed, (sound.2 past).uncached⟩⟩
  event _ _ _ _ := ⟨id, fun shut => ⟨shut.disabled, shut.closed, shut.uncached⟩⟩

theorem serving_protects :
    (serving casinoGroupId slug closed).Protects (serving casinoGroupId slug closed).guard :=
  Contract.Protects.of_proper fun _ fault _ _ proper admitted _ _ =>
    ⟨proper.disabled fault, proper.shut fault admitted⟩

theorem serving_entails :
    ((serving casinoGroupId slug False)).Entails (serving casinoGroupId slug True) where
  rely _ _ _ waited := waited
  invariant sound := ⟨sound.1, False.elim⟩
  proper _ _ proper := proper
  admits _ _ _ admitted := admitted

end Contract

section Programs

/-- A query that is carried out as it is. -/
theorem query_safe {α : Type} {query : Query Database Failure α}
    {post : Except Failure α → State → Prop} (proper : Proper casinoGroupId slug
      (.other query : Joint CacheCall (Query Database Failure) α))
    (answered : ∀ later, Sited casinoGroupId slug later → (closed → Shut casinoGroupId later) →
      (Disabled casinoGroupId state.db → Disabled casinoGroupId later.db) →
      (Shut casinoGroupId state → Shut casinoGroupId later) → ∀ value,
        (query later.db).1 = .ok value →
          post (.ok value) { later with db := (query later.db).2 })
    (failed : ∀ failure after, post (.error failure) after) :
    (serving casinoGroupId slug closed).Safe post (prisma (Program.call query)) state := by
  refine Contract.Safe.call fun later waited sound => ⟨proper, fun fault _ => ?_⟩
  cases replied : (cacheMachine.perform fault (.other query) later).1 with
  | error failure => exact failed failure _
  | ok value =>
      have same := Server.perform_ok server replied
      rw [same] at replied ⊢
      exact answered later sound.1 sound.2 waited.1 waited.2 value replied

theorem read_proper {α : Type} (view : Database → α) : Proper casinoGroupId slug
    (.other (Query.read view) : Joint CacheCall (Query Database Failure) α) :=
  fun _ => ⟨id, id⟩

/-- What a resolver returns is not the tenant once that is shut. -/
def Misses (casinoGroupId : String) (closed : Prop)
    (outcome : Except Failure (Option CasinoGroupContext)) : Prop :=
  closed → ∀ group, outcome = .ok (some group) → group.id ≠ casinoGroupId

theorem readCache_safe (key : String) : (serving casinoGroupId slug closed).Safe
    (fun outcome _ => Misses casinoGroupId closed outcome) (readCache key) state := by
  refine Contract.Safe.handle (fun outcome _ => Misses casinoGroupId closed outcome) ?_
    (fun _ _ misses => misses) fun _ _ _ _ _ never => nomatch never
  refine Contract.Safe.call fun later _ sound => ⟨trivial, fun fault _ past group returned => ?_⟩
  rw [Server.perform_ok server returned] at returned
  obtain ⟨entry, live, rfl⟩ := Option.map_eq_some_iff.mp (Except.ok.inj returned)
  have found := (Option.filter_eq_some_iff.mp live).1
  exact (sound.2 past).uncached entry (Table.get?_eq_some_iff.mp found).1

theorem writeCache_safe {key : String} {group : CasinoGroupContext}
    (keyed : group.id = casinoGroupId → key ∈ cacheKeys casinoGroupId slug) (state : State) :
    (serving casinoGroupId slug closed).Runs (writeCache key group) state :=
  Contract.Runs.handle (Contract.Safe.call fun _ _ _ => ⟨keyed, fun _ _ => trivial⟩)
    fun _ _ => trivial

theorem findActive_eq_some {chosen : CasinoGroup → Bool} {db : Database}
    {context : CasinoGroupContext} (found : findActive chosen db = some context) :
    ∃ group ∈ db.catalog.casinoGroups, chosen group = true ∧ group.active = true ∧
      context = groupContext group := by
  obtain ⟨group, first, rfl⟩ := Option.map_eq_some_iff.mp found
  have member := List.mem_of_find?_eq_some first
  obtain ⟨named, active⟩ : chosen group = true ∧ group.active = true := by
    simpa using List.find?_some first
  exact ⟨group, member, named, active, rfl⟩

theorem Disabled.inactive {db : Database} (disabled : Disabled casinoGroupId db)
    {group : CasinoGroup} (stored : group ∈ db.catalog.casinoGroups)
    (own : group.id = casinoGroupId) : group.active = false := by
  subst own
  rw [Disabled, Table.get?_of_mem stored] at disabled
  exact Option.some.inj disabled

theorem resolveActive_safe {key : String} {chosen : CasinoGroup → Bool}
    (keyed : ∀ group, chosen group = true → group.id = casinoGroupId → group.slug = slug →
      key ∈ cacheKeys casinoGroupId slug) (state : State) :
    (serving casinoGroupId slug closed).Safe (fun outcome _ => Misses casinoGroupId closed outcome)
      (resolveActive key chosen) state := by
  refine Contract.Safe.bind (readCache_safe key) ?_ fun _ _ _ _ _ never => nomatch never
  intro cached after misses
  cases cached with
  | some group => exact misses
  | none =>
      have found : (serving casinoGroupId slug closed).Safe
          (fun outcome _ => Misses casinoGroupId closed outcome ∧ ∀ group,
            outcome = .ok (some group) → group.id = casinoGroupId →
              key ∈ cacheKeys casinoGroupId slug) (prisma (read (findActive chosen))) after := by
        refine query_safe (read_proper _) ?_ fun _ _ =>
          ⟨fun _ _ never => (nomatch never), fun _ never => nomatch never⟩
        intro later sited shut _ _ value returned
        obtain rfl : findActive chosen later.db = value := Except.ok.inj returned
        refine ⟨fun past context same own => ?_, fun context same own => ?_⟩
        · obtain ⟨group, stored, _, active, rfl⟩ := findActive_eq_some (Except.ok.inj same)
          rw [(shut past).disabled.inactive stored own] at active
          cases active
        · obtain ⟨group, stored, chosen, _, rfl⟩ := findActive_eq_some (Except.ok.inj same)
          exact keyed group chosen own (sited.1 group stored own)
      refine Contract.Safe.bind found ?_ fun _ _ _ _ _ never => nomatch never
      intro group later known
      cases group with
      | none => exact known.1
      | some group =>
          exact Contract.Safe.bind (writeCache_safe (known.2 group rfl) later)
            (fun _ _ _ => known.1) fun _ _ _ _ _ never => nomatch never

/-- A resolver does not return the tenant once that is shut. -/
theorem returns_safe {resolver : CacheService (Option CasinoGroupContext)}
    (safe : (serving casinoGroupId slug closed).Safe
      (fun outcome _ => Misses casinoGroupId closed outcome) resolver state) :
    (serving casinoGroupId slug closed).Safe (fun outcome _ => closed → outcome ≠ .ok ())
      (returns casinoGroupId resolver) state := by
  refine Contract.Safe.bind safe ?_ fun _ _ _ _ => nofun
  intro group after misses
  split
  · next same =>
      obtain ⟨context, rfl, own⟩ := Option.map_eq_some_iff.mp same
      exact fun past => absurd own (misses past context rfl)
  · exact fun _ => nofun

end Programs

section Patch

variable {patches : String} {dto : PatchTenantDto}

theorem updateGroup_ok {db after : Database} {updated : Tenant}
    (done : updateGroup patches dto db = .ok (updated, after)) :
    ∃ group, db.catalog.casinoGroups.get? patches = some group ∧
      updated = tenant (patched dto group) ∧
      after = { db with
        catalog.casinoGroups := db.catalog.casinoGroups.put (patched dto group) } := by
  unfold updateGroup at done
  split at done
  · cases done
  · next group found =>
      obtain ⟨rfl, rfl⟩ := Prod.mk.inj (Except.ok.inj done)
      exact ⟨group, found, rfl, rfl⟩

/-- An update renames no tenant, and enables it only where it says so. -/
theorem update_proper (enables : patches = casinoGroupId → dto.active ≠ some true) :
    Proper casinoGroupId slug (.other (Query.transaction (updateGroup patches dto)) :
      Joint CacheCall (Query Database Failure) Tenant) := by
  intro db
  unfold Query.transaction
  split
  · next updated after done =>
      obtain ⟨group, found, _, rfl⟩ := updateGroup_ok done
      obtain ⟨stored, same⟩ := Table.get?_eq_some_iff.mp found
      refine ⟨fun named other present own => ?_, fun disabled => ?_⟩
      · rcases Table.mem_put.mp present with rfl | ⟨old, _⟩
        · exact named group stored own
        · exact named other old own
      · rw [Disabled, Table.get?_put]
        split
        · next own =>
            have inactive := disabled.inactive stored own
            have spares := enables (same.symm.trans own)
            cases set : dto.active with
            | none => simp [patched, set, inactive]
            | some active =>
                cases active with
                | false => simp [patched, set]
                | true => exact absurd set spares
        · exact disabled
  · exact ⟨id, id⟩

/-- Proper, and no write to the cache. -/
def Spares (casinoGroupId slug : String) {Reply : Type}
    (request : Joint CacheCall (Query Database Failure) Reply) : Prop :=
  Proper casinoGroupId slug request ∧ written request = none

theorem spares_safe {α : Type} {program : CacheService α} {fact : Prop}
    (spares : program.CallsOnly (Spares casinoGroupId slug))
    (shut : fact → Shut casinoGroupId state) :
    (serving casinoGroupId slug closed).Safe (fun _ after => fact → Shut casinoGroupId after)
      program state := by
  have waits : ∀ {Reply : Type} (request : Joint CacheCall (Query Database Failure) Reply)
      {before after : State}, (serving casinoGroupId slug closed).rely request before after →
      (fact → Shut casinoGroupId before) → fact → Shut casinoGroupId after :=
    fun _ _ _ waited held known => waited.2 (held known)
  have calls : ∀ {Reply : Type} (request : Joint CacheCall (Query Database Failure) Reply) fault
      state, Spares casinoGroupId slug request → (fact → Shut casinoGroupId state) → fact →
        Shut casinoGroupId (cacheMachine.perform fault request state).2 :=
    fun _ fault _ spared held known =>
      spared.1.shut fault (.inr (by simp [spared.2])) (held known)
  exact Contract.Safe.of_callsOnly waits (fun _ _ spared => spared.1) calls spares shut

/-- A service whose queries are proper. -/
theorem service_spares {α : Type} {service : Service α} (proper : service.CallsOnly fun query =>
      Proper casinoGroupId slug (.other query : Joint CacheCall (Query Database Failure) _)) :
    (prisma service).CallsOnly (Spares casinoGroupId slug) := by
  have wider : ∀ {Reply : Type} (query : Query Database Failure Reply),
      Proper casinoGroupId slug (.other query : Joint CacheCall (Query Database Failure) Reply) →
      Spares casinoGroupId slug
        (.other query : Joint CacheCall (Query Database Failure) Reply) :=
    fun _ proper => ⟨proper, rfl⟩
  exact proper.mapCalls wider

theorem getTenant_proper (patches : String) : (getTenant patches).CallsOnly fun query =>
    Proper casinoGroupId slug (.other query : Joint CacheCall (Query Database Failure) _) := by
  refine Program.CallsOnly.bind ((Program.callsOnly_call _).mpr (read_proper _)) fun group => ?_
  cases group <;> trivial

theorem recordAudit_proper (entry : AuditEntry) : (recordAudit entry).CallsOnly fun query =>
    Proper casinoGroupId slug (.other query : Joint CacheCall (Query Database Failure) _) :=
  Program.CallsOnly.handle ((Program.callsOnly_call _).mpr fun _ => ⟨id, id⟩) fun _ => trivial

/-- An update that disables the tenant says so. -/
theorem update_safe (enables : patches = casinoGroupId → dto.active ≠ some true) (state : State) :
    (serving casinoGroupId slug closed).Safe
      (fun outcome after => ∀ value, outcome = .ok value → patches = casinoGroupId →
        dto.active = some false → value.id = casinoGroupId ∧ value.slug = slug ∧
          Disabled casinoGroupId after.db)
      (prisma (transaction (updateGroup patches dto))) state := by
  refine query_safe (update_proper enables) ?_ fun _ _ _ never => nomatch never
  intro later sited _ _ _ value returned _ same own disables
  obtain rfl := Except.ok.inj same
  unfold Query.transaction at returned ⊢
  cases done : updateGroup patches dto later.db with
  | error failure =>
      rw [done] at returned
      cases returned
  | ok result =>
      rw [done] at returned
      obtain ⟨group, found, shown, changed⟩ := updateGroup_ok done
      obtain ⟨stored, named⟩ := Table.get?_eq_some_iff.mp found
      obtain rfl : result.1 = value := Except.ok.inj returned
      rw [shown]
      refine ⟨named.trans own, sited.1 group stored (named.trans own), ?_⟩
      dsimp only
      rw [changed, Disabled, Table.get?_put, if_pos (show (patched dto group).id = _ from
        named.trans own)]
      simp [patched, disables]

/-- The invalidation of a disabled tenant shuts it. -/
theorem invalidate_safe {updated : Tenant} {state : State} (known : patches = casinoGroupId →
      dto.active = some false → updated.id = casinoGroupId ∧ updated.slug = slug ∧
        Disabled casinoGroupId state.db) :
    (serving casinoGroupId slug closed).Safe
      (fun outcome after => outcome = .ok () → patches = casinoGroupId →
        dto.active = some false → Shut casinoGroupId after) (invalidate updated.context) state := by
  refine Contract.Safe.call fun last waited sound =>
    ⟨trivial, fun fault _ returned own disables => ?_⟩
  obtain ⟨id, slugged, disabled⟩ := known own disables
  have now := waited.1 disabled
  rw [Server.perform_ok server returned]
  refine ⟨now, ?_, fun entry kept owned => ?_⟩
  · show casinoGroupId ∈ (if Disabled updated.id last.db then [updated.id] else []) ++ last.closed
    rw [id, if_pos now]
    exact List.mem_append_left _ (List.mem_singleton.mpr rfl)
  · obtain ⟨stored, spared⟩ := Table.mem_deleteWhere.mp kept
    have sited := sound.1.2 entry stored owned
    have keys : cacheKeys updated.context.id updated.context.slug =
        cacheKeys casinoGroupId slug := by
      rw [show updated.context.id = casinoGroupId from id,
        show updated.context.slug = slug from slugged]
    rw [keys] at spared
    simp [sited] at spared

/-- A patch that disables the tenant shuts it. -/
theorem patchTenant_safe (enables : patches = casinoGroupId → dto.active ≠ some true)
    (staffUserId : String) (state : State) :
    (serving casinoGroupId slug closed).Safe
      (fun outcome after => ∀ value, outcome = .ok value → patches = casinoGroupId →
        dto.active = some false → Shut casinoGroupId after)
      (patchTenant patches dto staffUserId) state := by
  have before : (serving casinoGroupId slug closed).Runs (prisma (getTenant patches)) state :=
    (spares_safe (service_spares (getTenant_proper patches)) False.elim).runs
  refine Contract.Safe.bind before ?_ fun _ _ _ _ never => nomatch never
  intro before after _
  refine Contract.Safe.bind (update_safe enables after) ?_ fun _ _ _ _ never => nomatch never
  intro updated later known
  refine Contract.Safe.bind (invalidate_safe (known updated rfl)) ?_
    fun _ _ _ _ never => nomatch never
  intro _ last shut
  have audited : (serving casinoGroupId slug closed).Safe
      (fun _ after => patches = casinoGroupId ∧ dto.active = some false →
        Shut casinoGroupId after)
      (prisma (recordAudit (tenantEntry patches staffUserId before updated))) last :=
    spares_safe (service_spares (recordAudit_proper _)) fun both => shut rfl both.1 both.2
  exact Contract.Safe.bind audited (fun _ _ shut _ _ own disables => shut ⟨own, disables⟩)
    fun _ _ _ _ never => nomatch never

end Patch

section Runs

theorem resolveActiveBySlug_safe (wanted : String) (state : State) :
    (serving casinoGroupId slug closed).Safe (fun outcome _ => closed → outcome ≠ .ok ())
      (returns casinoGroupId (resolveActiveBySlug wanted)) state := by
  refine returns_safe (resolveActive_safe (fun group named _ own => ?_) state)
  obtain rfl : wanted = slug := (of_decide_eq_true named).symm.trans own
  exact List.mem_cons_self

theorem resolveActiveById_safe (wanted : String) (state : State) :
    (serving casinoGroupId slug closed).Safe (fun outcome _ => closed → outcome ≠ .ok ())
      (returns casinoGroupId (resolveActiveById wanted)) state := by
  refine returns_safe (resolveActive_safe (fun group named own _ => ?_) state)
  obtain rfl : wanted = casinoGroupId := (of_decide_eq_true named).symm.trans own
  exact List.mem_cons_of_mem _ List.mem_cons_self

def TenantAction.Resolves : TenantAction → Prop
  | .patchTenant _ _ _ => False
  | _ => True

theorem resolver_safe {action : TenantAction} (resolves : action.Resolves) (state : State) :
    (serving casinoGroupId slug closed).Safe (fun outcome _ => closed → outcome ≠ .ok ())
      (action.program casinoGroupId) state := by
  cases action with
  | resolveActiveBySlug wanted => exact resolveActiveBySlug_safe wanted state
  | resolveActiveById wanted => exact resolveActiveById_safe wanted state
  | patchTenant patches dto staffUserId => exact resolves.elim

theorem action_safe {action : TenantAction} (spares : action.enables ≠ some casinoGroupId)
    (state : State) : (serving casinoGroupId slug closed).Runs (action.program casinoGroupId)
      state := by
  cases action with
  | resolveActiveBySlug wanted => exact (resolveActiveBySlug_safe wanted state).runs
  | resolveActiveById wanted => exact (resolveActiveById_safe wanted state).runs
  | patchTenant patches dto staffUserId =>
      refine (patchTenant_safe (fun own enables => ?_) staffUserId state).runs.void
      exact spares (by simp [TenantAction.enables, own, enables])

variable (casinoGroupId) (actions : List TenantAction) (db : Database) (cache : Cache)
  (clock : Time)

/-- After a patch that disabled the tenant has completed, no resolver that starts returns the
tenant, as long as none writes it back to the cache once its keys were deleted. -/
theorem disabled_tenant_locked_out (filed : ∀ entry ∈ cache.rows,
      ∃ group ∈ db.catalog.casinoGroups.rows, group.id = entry.group.id ∧
        entry.key ∈ cacheKeys group.id group.slug)
    {patch : ℕ} {dto : PatchTenantDto} {staffUserId : String}
    (listed : actions[patch]? = some (.patchTenant casinoGroupId dto staffUserId))
    (disables : dto.active = some false)
    (others : ∀ action ∈ actions, action.enables ≠ some casinoGroupId)
    {earlier later : List (Move cacheMachine)}
    (followed : (tenantActions casinoGroupId actions db cache clock).Follows NotWrittenBack
      (earlier ++ later))
    (completed : ((tenantActions casinoGroupId actions db cache clock).run earlier).Returned patch)
    {resolver : ℕ} {action : TenantAction} (resolves : action.Resolves)
    (unstarted : ((tenantActions casinoGroupId actions db cache clock).run
      earlier).pool[resolver]? = some (action.program casinoGroupId)) :
    ¬ ((tenantActions casinoGroupId actions db cache clock).run
      (earlier ++ later)).Returned resolver := by
  obtain ⟨slug, named⟩ : ∃ slug, Named casinoGroupId slug db := by
    cases found : db.catalog.casinoGroups.get? casinoGroupId with
    | none => exact ⟨"", fun group stored own =>
        absurd own (Table.get?_eq_none_iff.mp found group stored)⟩
    | some known =>
        obtain ⟨member, same⟩ := Table.get?_eq_some_iff.mp found
        exact ⟨known.slug, fun group stored own =>
          congrArg CasinoGroup.slug (Table.eq_of_key stored member (own.trans same.symm))⟩
  have sited : Sited casinoGroupId slug ⟨db, cache, clock, []⟩ := by
    refine ⟨named, fun entry stored own => ?_⟩
    obtain ⟨group, member, same, key⟩ := filed entry stored
    rwa [named group member (same.trans own), same, own] at key
  have split := (Config.follows_append NotWrittenBack _ earlier later).mp followed
  -- the patch, to its end
  have patching : (serving casinoGroupId slug False).Concludes
      (fun outcome after => outcome = .ok () → Shut casinoGroupId after) patch
      (tenantActions casinoGroupId actions db cache clock) := by
    refine ⟨⟨⟨sited, False.elim⟩, fun program member => ?_⟩, fun program found => ?_⟩
    · obtain ⟨action, present, rfl⟩ := List.mem_map.mp member
      exact action_safe (others action present) _
    · obtain rfl : program = TenantAction.program casinoGroupId
          (.patchTenant casinoGroupId dto staffUserId) := by
        simpa [tenantActions, listed] using found.symm
      have spares : casinoGroupId = casinoGroupId → dto.active ≠ some true := by simp [disables]
      refine Contract.Safe.bind (patchTenant_safe spares staffUserId _) ?_
        fun _ _ _ never => nomatch never
      exact fun value after shut _ => shut value rfl rfl disables
  have ended := patching.run serving_stable serving_protects
    (fun config fault _ request outcome admitted _ proper held ok =>
      proper.shut fault admitted (held ok))
    (fun _ _ _ _ held ok => ⟨(held ok).disabled, (held ok).closed, (held ok).uncached⟩) split.1
  have shut := ended.safe _ completed rfl
  -- the resolver, from its start
  have resolving : (serving casinoGroupId slug True).Concludes
      (fun outcome _ => True → outcome ≠ .ok ()) resolver
      ((tenantActions casinoGroupId actions db cache clock).run earlier) := by
    refine ⟨⟨⟨ended.healthy.sound.1, fun _ => shut⟩, fun program member =>
      (ended.healthy.safe program member).entails serving_entails⟩, fun program found => ?_⟩
    rw [unstarted] at found
    rw [← Option.some.inj found]
    exact resolver_safe resolves _
  have refused := resolving.run serving_stable serving_protects
    (fun _ _ _ _ _ _ _ _ held => held) (fun _ _ _ _ held => held) split.2
  rw [Config.run_append]
  exact fun returned => refused.safe _ returned trivial rfl

end Runs

section Sample

/-- Two slow resolvers, a patch, and two resolvers that start after it. -/
def disabling : Config cacheMachine :=
  tenantActions "acme" [.resolveActiveById "acme", .resolveActiveBySlug "acme",
    .patchTenant "acme" { active := some false } "admin", .resolveActiveById "acme",
    .resolveActiveBySlug "acme"] StaffScopeService.grantedDatabase .empty 0

/-- The first two read the tenant before the patch. -/
def readBefore : List (Move cacheMachine) :=
  [.run 0 .none, .run 0 .none, .run 1 .none, .run 1 .none] ++ List.replicate 4 (.run 2 .none)

def writtenBack : List (Move cacheMachine) :=
  [.run 0 .none, .run 1 .none, .run 3 .none, .run 4 .none]

theorem disabled_tenant_resolved :
    (disabling.run readBefore).Returned 2 ∧
    (disabling.run readBefore).pool[3]? =
      some ((TenantAction.resolveActiveById "acme").program "acme") ∧
    (disabling.run readBefore).pool[4]? =
      some ((TenantAction.resolveActiveBySlug "acme").program "acme") ∧
    (disabling.run (readBefore ++ writtenBack)).Returned 3 ∧
    (disabling.run (readBefore ++ writtenBack)).Returned 4 :=
  ⟨by decide +kernel, rfl, rfl, by decide +kernel, by decide +kernel⟩

/-- Where a slow resolver writes the tenant before its keys are deleted, the next one looks
for it in the database. -/
def writtenBefore : List (Move cacheMachine) :=
  [.run 0 .none, .run 0 .none, .run 2 .none, .run 2 .none, .run 0 .none, .run 2 .none, .run 2 .none]

theorem disabled_tenant_refused :
    (disabling.run writtenBefore).Returned 0 ∧
    ¬ (disabling.run (writtenBefore ++ [.run 3 .none, .run 3 .none])).Returned 3 := by
  have followed : disabling.Follows NotWrittenBack
      (writtenBefore ++ [.run 3 .none, .run 3 .none]) := by decide +kernel
  have completed : (disabling.run writtenBefore).Returned 2 := by decide +kernel
  have resolves : (TenantAction.resolveActiveById "acme").Resolves := trivial
  exact ⟨by decide +kernel, disabled_tenant_locked_out "acme" _ _ _ _ (by decide) rfl rfl
    (by decide) followed completed resolves rfl⟩

end Sample

end SportsBetting.CasinoGroups
