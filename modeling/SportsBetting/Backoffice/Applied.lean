import SportsBetting.Backoffice.Listed

/-!
# What a refused update of the offering leaves behind

The items of an update are checked and written one by one. An item that is refused
ends the update, after the items before it have been written.
-/

namespace SportsBetting.Product

open Async

variable {configured : List String} {db : Database} {casinoGroupId : String}
  {allowedKeys : List String} {staff : StaffContext} {item : LeagueOfferingDto}
  {items : List LeagueOfferingDto}

section Items

/-- The league is unknown, outside the scope of the ingest, locked by the platform for its
tenant's staff, or not active in the catalog. -/
def refused (db : Database) (casinoGroupId : String) (allowedKeys : List String)
    (staff : StaffContext) (item : LeagueOfferingDto) : Bool :=
  match findLeague db item.leagueId with
  | none => true
  | some (league, sportActive) =>
      decide (league.key ∉ allowedKeys) || (item.enabled &&
        (!isPlatformStaff staff && isLocked db casinoGroupId item.leagueId ||
          !(league.active && sportActive)))

/-- What is persisted for an item that is not refused. -/
def offeringOf (db : Database) (casinoGroupId : String) (staff : StaffContext)
    (item : LeagueOfferingDto) : Offering where
  casinoGroupId := casinoGroupId
  leagueId := item.leagueId
  leagueKey := item.leagueId
  staffUserId := staff.staffUserId
  existing := db.catalog.casinoGroupLeagues.get? (casinoGroupId, item.leagueId)
  enabled := item.enabled
  platformLocked :=
    if isPlatformStaff staff then !item.enabled else isLocked db casinoGroupId item.leagueId
  operatorOnly := !isPlatformStaff staff

def Offering.persisted (input : Offering) (db : Database) : Database :=
  let db := upsertOffering db input.casinoGroupId input.leagueId input.enabled
    input.platformLocked input.operatorOnly
  if input.changed then { db with audit := db.audit ++ [input.entry] } else db

def applied (casinoGroupId : String) (staff : StaffContext) (db : Database)
    (item : LeagueOfferingDto) : Database :=
  (offeringOf db casinoGroupId staff item).persisted db

theorem eval_persistOffering (input : Offering) (db : Database) :
    (persistOffering input).eval db = (.ok (), input.persisted db) := by
  unfold persistOffering Offering.persisted write
  rw [Program.eval_write_bind]
  split
  · rfl
  · rfl

theorem findLeague_key {leagueId : String} {league : League} {sportActive : Bool}
    (known : findLeague db leagueId = some (league, sportActive)) : league.key = leagueId := by
  unfold findLeague at known
  cases stored : db.catalog.leagues.get? leagueId with
  | none => simp [stored] at known
  | some row =>
      cases active : db.catalog.sports.get? row.sport with
      | none => simp [stored, active] at known
      | some sport =>
          obtain ⟨rfl, _⟩ : row = league ∧ sport.active = sportActive := by
            simpa [stored, active] using known
          exact (Table.get?_eq_some_iff.mp stored).2

/-- An item is refused, and nothing is written, or it is persisted. -/
theorem eval_updateLeague (db : Database) (item : LeagueOfferingDto) :
    (refused db casinoGroupId allowedKeys staff item = true ∧ ∃ failure,
        (updateLeague casinoGroupId allowedKeys staff item).eval db = (.error failure, db)) ∨
      refused db casinoGroupId allowedKeys staff item = false ∧
        (updateLeague casinoGroupId allowedKeys staff item).eval db =
          (.ok (), applied casinoGroupId staff db item) := by
  unfold updateLeague refused applied offeringOf read
  rw [Program.eval_read_bind]
  cases known : findLeague db item.leagueId with
  | none => exact .inl ⟨rfl, _, rfl⟩
  | some found =>
      obtain ⟨league, sportActive⟩ := found
      dsimp only
      rw [findLeague_key known]
      by_cases scope : item.leagueId ∈ allowedKeys
      · rw [if_neg (not_not.mpr scope), Program.eval_read_bind]
        by_cases inactive : (item.enabled && !(league.active && sportActive)) = true
        · obtain ⟨enabled, absent⟩ := Bool.and_eq_true_iff.mp inactive
          refine .inl ⟨by simp [enabled, absent], ?_⟩
          rw [if_pos inactive, if_pos inactive]
          split
          · split
            · exact ⟨_, rfl⟩
            · exact ⟨_, rfl⟩
          · exact ⟨_, rfl⟩
        · rw [if_neg inactive, if_neg inactive]
          cases platform : isPlatformStaff staff with
          | true => exact .inr ⟨by simpa [scope] using inactive, eval_persistOffering _ _⟩
          | false =>
              by_cases locked : (item.enabled && isLocked db casinoGroupId item.leagueId) = true
              · obtain ⟨enabled, held⟩ := Bool.and_eq_true_iff.mp locked
                refine .inl ⟨by simp [enabled, held], ?_⟩
                unfold isLocked at locked
                rw [if_pos Bool.not_false, if_pos locked]
                exact ⟨_, rfl⟩
              · refine .inr ⟨by grind, ?_⟩
                unfold isLocked at locked
                rw [if_pos Bool.not_false, if_neg locked]
                exact eval_persistOffering _ _
      · exact .inl ⟨by simp [scope], _, by rw [if_pos scope]; rfl⟩

/-- The tenant's row already is what the item asks for. -/
def AsAsked (db : Database) (casinoGroupId : String) (staff : StaffContext)
    (item : LeagueOfferingDto) : Prop :=
  ∃ row ∈ db.catalog.casinoGroupLeagues.get? (casinoGroupId, item.leagueId),
    row.enabled = item.enabled ∧
      (isPlatformStaff staff = true → row.platformLocked = !item.enabled)

theorem changed_eq_false_iff :
    (offeringOf db casinoGroupId staff item).changed = false ↔
      AsAsked db casinoGroupId staff item := by
  unfold Offering.changed AsAsked offeringOf
  dsimp only
  cases db.catalog.casinoGroupLeagues.get? (casinoGroupId, item.leagueId) with
  | none => simp
  | some row =>
      cases isPlatformStaff staff with
      | true => simp [Bool.eq_not]
      | false => simp

theorem applied_of_asAsked (asked : AsAsked db casinoGroupId staff item) :
    applied casinoGroupId staff db item = db := by
  have same := changed_eq_false_iff.mpr asked
  unfold applied Offering.persisted
  rw [same]
  obtain ⟨row, stored, enabled, locked⟩ := asked
  have stored : db.catalog.casinoGroupLeagues.get? (casinoGroupId, item.leagueId) = some row :=
    stored
  have kept : row ∈ db.catalog.casinoGroupLeagues := (Table.get?_eq_some_iff.mp stored).1
  unfold upsertOffering offeringOf
  dsimp only
  rw [stored]
  cases platform : isPlatformStaff staff with
  | true =>
      have locks : (!row.enabled) = row.platformLocked := by rw [enabled, locked platform]
      simp [← enabled, locks, Table.put_eq_self kept]
  | false => simp [← enabled, Table.put_eq_self kept]

theorem audit_applied (db : Database) (item : LeagueOfferingDto) :
    (applied casinoGroupId staff db item).audit =
      if (offeringOf db casinoGroupId staff item).changed
      then db.audit ++ [(offeringOf db casinoGroupId staff item).entry] else db.audit := by
  unfold applied Offering.persisted
  dsimp only
  split
  · rfl
  · rfl

theorem catalog_persisted (input : Offering) (db : Database) :
    (input.persisted db).catalog = (upsertOffering db input.casinoGroupId input.leagueId
      input.enabled input.platformLocked input.operatorOnly).catalog := by
  unfold Offering.persisted
  dsimp only
  split
  · rfl
  · rfl

theorem catalog_applied (db : Database) (item : LeagueOfferingDto) :
    ∃ offering, (applied casinoGroupId staff db item).catalog =
      { db.catalog with casinoGroupLeagues := offering } :=
  ⟨_, catalog_persisted _ db⟩

/-- A tenant's staff leaves all locks as they are. -/
theorem isLocked_applied (tenant : isPlatformStaff staff = false) (item : LeagueOfferingDto)
    (league : String) :
    isLocked (applied casinoGroupId staff db item) casinoGroupId league =
      isLocked db casinoGroupId league := by
  have same : isLocked (applied casinoGroupId staff db item) casinoGroupId league =
      isLocked (upsertOffering db casinoGroupId item.leagueId item.enabled
        (isLocked db casinoGroupId item.leagueId) true) casinoGroupId league := by
    unfold applied isLocked
    rw [catalog_persisted]
    unfold offeringOf
    rw [tenant]
    rfl
  rw [same]
  rcases upsertOffering_operator db casinoGroupId item.leagueId item.enabled
    (isLocked db casinoGroupId item.leagueId) with set | ⟨_, set⟩
  all_goals
    rw [set, isLocked_set]
    split
    · next key => rw [(Prod.mk.inj key).2]
    · rfl

/-- What is persisted for one item does not decide about another. -/
theorem refused_applied (item other : LeagueOfferingDto) :
    refused (applied casinoGroupId staff db item) casinoGroupId allowedKeys staff other =
      refused db casinoGroupId allowedKeys staff other := by
  have leagues : ∀ leagueId, findLeague (applied casinoGroupId staff db item) leagueId =
      findLeague db leagueId := by
    obtain ⟨offering, catalog⟩ := catalog_applied db item
    intro leagueId
    rw [findLeague, catalog]
    rfl
  unfold refused
  rw [leagues]
  cases tenant : isPlatformStaff staff with
  | true => rfl
  | false => rw [isLocked_applied tenant]

end Items

section Lists

/-- The update stops at the first item that is refused, and has persisted those before it. -/
theorem eval_items (db : Database) (items : List LeagueOfferingDto) :
    ((∃ item ∈ items, refused db casinoGroupId allowedKeys staff item = true) ∧ ∃ failure,
        (items.forM (updateLeague casinoGroupId allowedKeys staff)).eval db =
          (.error failure, (items.takeWhile fun item =>
            !refused db casinoGroupId allowedKeys staff item).foldl
              (applied casinoGroupId staff) db)) ∨
      (∀ item ∈ items, refused db casinoGroupId allowedKeys staff item = false) ∧
        (items.forM (updateLeague casinoGroupId allowedKeys staff)).eval db =
          (.ok (), items.foldl (applied casinoGroupId staff) db) := by
  induction items generalizing db with
  | nil => exact .inr ⟨nofun, rfl⟩
  | cons item items ih =>
      have loop : (item :: items).forM (updateLeague casinoGroupId allowedKeys staff) =
        updateLeague casinoGroupId allowedKeys staff item >>= fun _ =>
          items.forM (updateLeague casinoGroupId allowedKeys staff) := rfl
      rw [loop, Program.eval_bind]
      rcases eval_updateLeague db item with ⟨refuses, failure, stops⟩ | ⟨admits, goes⟩
      · refine .inl ⟨⟨item, List.mem_cons_self, refuses⟩, failure, ?_⟩
        rw [stops, List.takeWhile_cons_of_neg (by simp [refuses])]
        rfl
      · rw [goes, List.takeWhile_cons_of_pos (by simp [admits])]
        have rest := ih (applied casinoGroupId staff db item)
        simp only [refused_applied] at rest
        rcases rest with ⟨⟨other, member, refuses⟩, stops⟩ | ⟨admitted, ends⟩
        · exact .inl ⟨⟨other, List.mem_cons_of_mem _ member, refuses⟩, stops⟩
        · exact .inr ⟨List.forall_mem_cons.mpr ⟨admits, admitted⟩, ends⟩

theorem audit_grows (casinoGroupId : String) (staff : StaffContext) (db : Database)
    (items : List LeagueOfferingDto) :
    db.audit <+: (items.foldl (applied casinoGroupId staff) db).audit := by
  induction items generalizing db with
  | nil => exact List.prefix_rfl
  | cons item items ih =>
      refine List.IsPrefix.trans ?_ (ih (applied casinoGroupId staff db item))
      rw [audit_applied]
      split
      · exact List.prefix_append _ _
      · exact List.prefix_rfl

/-- Persisting the items leaves no trace only if there was nothing to do. -/
theorem persisted_unchanged_iff (db : Database) (items : List LeagueOfferingDto) :
    ((items.foldl (applied casinoGroupId staff) db).catalog.casinoGroupLeagues =
        db.catalog.casinoGroupLeagues ∧
      (items.foldl (applied casinoGroupId staff) db).audit = db.audit) ↔
    ∀ item ∈ items, AsAsked db casinoGroupId staff item := by
  induction items with
  | nil => simp
  | cons item items ih =>
      rw [List.foldl_cons, List.forall_mem_cons]
      by_cases asked : AsAsked db casinoGroupId staff item
      · rw [applied_of_asAsked asked, ih, and_iff_right asked]
      · apply iff_of_false
        · rintro ⟨_, same⟩
          have changed : (offeringOf db casinoGroupId staff item).changed = true := by
            simpa using mt changed_eq_false_iff.mp asked
          have grows :=
            (audit_grows casinoGroupId staff (applied casinoGroupId staff db item) items).length_le
          rw [same, audit_applied, if_pos changed, List.length_append] at grows
          simp at grows
        · exact fun all => asked all.1

end Lists

section Service

theorem casinoGroups_items (db : Database) (items : List LeagueOfferingDto) :
    (items.foldl (applied casinoGroupId staff) db).catalog.casinoGroups =
      db.catalog.casinoGroups := by
  induction items generalizing db with
  | nil => rfl
  | cons item items ih =>
      obtain ⟨offering, catalog⟩ : ∃ offering, (applied casinoGroupId staff db item).catalog =
        { db.catalog with casinoGroupLeagues := offering } := catalog_applied db item
      rw [List.foldl_cons, ih, catalog]

/-- An update that throws leaves the offering and the audit log as they were if, and only if,
every item before the first one that is refused asks for what was there already: the items are
persisted one by one, and none of it is taken back. -/
theorem refused_update_unchanged_iff (configured : List String) (db : Database)
    (casinoGroupId : String) (items : List LeagueOfferingDto) (staff : StaffContext) :
    (∀ failure after, (updateLeagues configured casinoGroupId items staff).eval db =
        (.error failure, after) →
      after.catalog.casinoGroupLeagues = db.catalog.casinoGroupLeagues ∧ after.audit = db.audit) ↔
    (db.catalog.casinoGroups.Has casinoGroupId →
      (∃ item ∈ items, refused db casinoGroupId
        (resolveCatalogLeagueKeys configured (activeKeys db)) staff item = true) →
      ∀ item ∈ items.takeWhile (fun item => !refused db casinoGroupId
        (resolveCatalogLeagueKeys configured (activeKeys db)) staff item),
          AsAsked db casinoGroupId staff item) := by
  unfold updateLeagues allowedCatalogLeagueKeys activeKeys read
  cases known : db.catalog.casinoGroups.get? casinoGroupId with
  | none =>
      apply iff_of_true
      · intro failure after outcome
        simp only [assertCasinoGroup, read, bind_assoc, Program.eval_read_bind, known] at outcome
        obtain ⟨_, rfl⟩ := Prod.mk.inj outcome
        exact ⟨rfl, rfl⟩
      · rintro ⟨group, stored, same⟩
        exact absurd same (Table.get?_eq_none_iff.mp known group stored)
  | some group =>
      have has : db.catalog.casinoGroups.Has casinoGroupId :=
        ⟨group, Table.get?_eq_some_iff.mp known⟩
      simp only [assertCasinoGroup, read, bind_assoc, Program.eval_read_bind, known,
        Program.pure_eq, Program.bind_ok]
      rw [Program.eval_bind, forall_prop_of_true has, ← persisted_unchanged_iff]
      rcases eval_items db items with ⟨refuses, failure, stops⟩ | ⟨admitted, ends⟩
      · rw [stops, forall_prop_of_true refuses]
        constructor
        · intro unchanged
          exact unchanged failure _ rfl
        · rintro unchanged _ _ ⟨⟩
          exact unchanged
      · apply iff_of_true
        · intro failure after outcome
          have stored : (items.foldl (applied casinoGroupId staff) db).catalog.casinoGroups.Has
              casinoGroupId := by rwa [casinoGroups_items]
          rw [ends] at outcome
          dsimp only at outcome
          rw [listLeagues_eval stored] at outcome
          cases outcome
        · rintro ⟨item, member, refuses⟩
          rw [admitted item member] at refuses
          cases refuses

/-- The second league of the update is unknown; the first one is taken off the offering. -/
def nbaAndUnknown : List LeagueOfferingDto := [⟨"basketball_nba", false⟩, ⟨"unknown", true⟩]

theorem refused_update_applied :
    ((updateLeagues ["all"] "group" nbaAndUnknown tenantStaff).eval Ingestion.openDatabase).1 =
        .error (.notFound "League unknown not found") ∧
      leagueEnabled Ingestion.openDatabase "group" "basketball_nba" = true ∧
      leagueEnabled ((updateLeagues ["all"] "group" nbaAndUnknown tenantStaff).eval
        Ingestion.openDatabase).2 "group" "basketball_nba" = false ∧
      ((updateLeagues ["all"] "group" nbaAndUnknown tenantStaff).eval
        Ingestion.openDatabase).2.audit ≠ Ingestion.openDatabase.audit ∧
      ¬ ∀ failure after, (updateLeagues ["all"] "group" nbaAndUnknown tenantStaff).eval
          Ingestion.openDatabase = (.error failure, after) →
        after.catalog.casinoGroupLeagues = Ingestion.openDatabase.catalog.casinoGroupLeagues ∧
          after.audit = Ingestion.openDatabase.audit := by
  have throws : ((updateLeagues ["all"] "group" nbaAndUnknown tenantStaff).eval
      Ingestion.openDatabase).1 = .error (.notFound "League unknown not found") := by
    decide +kernel
  have logged : ((updateLeagues ["all"] "group" nbaAndUnknown tenantStaff).eval
      Ingestion.openDatabase).2.audit ≠ Ingestion.openDatabase.audit := by decide +kernel
  refine ⟨throws, by decide +kernel, by decide +kernel, logged, ?_⟩
  intro unchanged
  cases result : (updateLeagues ["all"] "group" nbaAndUnknown tenantStaff).eval
      Ingestion.openDatabase with
  | mk outcome after =>
      rw [result] at throws logged
      have throws : outcome = _ := throws
      rw [throws] at result
      exact logged (unchanged _ after result).2

end Service

end SportsBetting.Product
