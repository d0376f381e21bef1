import SportsBetting.Backoffice.Listed

/-!
# Runs of onboarding, offering updates and catalog ingest

In every state that such runs reach, the back office's listing agrees with the
offer to players, as long as no run adds a league in scope that it leaves
without a row for some tenant.
-/

namespace SportsBetting.Product

open Async Merchants

section Merchant

variable {db after : Database}

theorem insertGroup_ok {group : CasinoGroup} (done : insertGroup db group = .ok after) :
    after.catalog.leagues = db.catalog.leagues ∧
    after.catalog.casinoGroupLeagues = db.catalog.casinoGroupLeagues ∧
    ∀ other, other ∈ after.catalog.casinoGroups ↔
      other ∈ db.catalog.casinoGroups ∨ other = group := by
  unfold insertGroup at done
  dsimp only at done
  split at done
  · cases done
  · next casinoGroups found =>
      rw [← Except.ok.inj done]
      split at found
      · cases found
      · exact ⟨rfl, rfl, (Table.insert?_spec found).2⟩

theorem enableLeagues_grows (casinoGroupId : String) (offeredKeys leagues : List String)
    (db : Database) :
    let after := enableLeagues casinoGroupId offeredKeys leagues db
    Grows (fun _ => False) db after ∧ after.catalog.leagues = db.catalog.leagues ∧
      ∀ league ∈ leagues, after.catalog.casinoGroupLeagues.Has (casinoGroupId, league) := by
  induction leagues generalizing db with
  | nil => exact ⟨Grows.refl db, rfl, fun _ member => nomatch member⟩
  | cons league rest ih =>
      obtain ⟨grows, same, covered⟩ := ih (Ingestion.upsertGroupLeague db casinoGroupId league
        (Ingestion.isLeagueOffered league offeredKeys))
      refine ⟨(upsertGroupLeague_grows db _ _ _).trans grows, same, fun other member => ?_⟩
      rcases List.mem_cons.mp member with here | later
      · rw [here]
        exact grows.rows _ (Table.has_put_self _ _)
      · exact covered other later

theorem grantAccess_ok {grantTo : Option String} {casinoGroupId : String}
    (done : grantAccess grantTo casinoGroupId db = .ok after) : after.catalog = db.catalog := by
  unfold grantAccess at done
  split at done
  · rw [← Except.ok.inj done]
  · split at done
    · cases done
    · rw [← Except.ok.inj done]

theorem insertUser_ok {user : StaffUser} (done : insertUser db user = .ok after) :
    after.catalog = db.catalog := by
  unfold insertUser at done
  dsimp only at done
  split at done
  · cases done
  · rw [← Except.ok.inj done]

/-- The new tenant has a row for every league, and no other tenant loses one. -/
theorem insertMerchant_complete {configured : List String} {group created : CasinoGroup}
    {offeredKeys : List String} {grantTo : Option String} {user : StaffUser}
    (complete : Complete configured db)
    (done : insertMerchant group offeredKeys grantTo user db = .ok (created, after)) :
    Complete configured after := by
  unfold insertMerchant at done
  obtain ⟨inserted, grouped, done⟩ := Except.bind_eq_ok.mp done
  obtain ⟨granted, access, done⟩ := Except.bind_eq_ok.mp done
  obtain ⟨last, account, done⟩ := Except.bind_eq_ok.mp done
  obtain ⟨_, same⟩ := Prod.mk.inj (Except.pure_eq_ok.mp done)
  subst last
  obtain ⟨leagues, rows, groups⟩ := insertGroup_ok grouped
  obtain ⟨grows, kept, covers⟩ := enableLeagues_grows group.id offeredKeys
    (inserted.catalog.leagues.rows.map League.key) inserted
  have catalog := (insertUser_ok account).trans (grantAccess_ok access)
  intro tenant member
  rw [catalog, grows.groups] at member
  rw [HasRows, activeKeys, catalog]
  rcases (groups tenant).mp member with old | rfl
  · -- a tenant that was there before
    have has := complete tenant old
    rw [HasRows, activeKeys, ← leagues, ← rows] at has
    exact HasRows.grows has grows (.inr fun _ never => never.elim)
  · intro league stored _ _
    rw [kept] at stored
    exact covers league.key (List.mem_map_of_mem stored)

end Merchant

inductive OfferingRun
  | createMerchant (dto : CreateMerchantDto) (staff : StaffContext) (generated : Generated)
  | updateLeagues (casinoGroupId : String) (leagues : List LeagueOfferingDto) (staff : StaffContext)
  | ingestFixtures (fetched : Except Failure ProviderSnapshot)

section Runs

variable (runtime : Text.Runtime) (crypto : Crypto) (isOddsApi : Bool) (configured : List String)

def OfferingRun.program : OfferingRun → Service Unit
  | .createMerchant dto staff generated =>
      (Merchants.createMerchant runtime crypto dto staff generated).void
  | .updateLeagues casinoGroupId leagues staff =>
      (Product.updateLeagues configured casinoGroupId leagues staff).void
  | .ingestFixtures fetched => (Ingestion.ingestFixtures runtime isOddsApi fetched).void

/-- A catalog run adds no league in scope, unless it syncs every tenant without one. -/
def OfferingRun.Covered (moves : List (Move databaseMachine)) (db : Database) : OfferingRun → Prop
  | .ingestFixtures (.ok snapshot) =>
      ∀ group ∈ db.catalog.casinoGroups, Synced snapshot moves db group ∨
        ∀ key, Adds db snapshot key →
          key ∉ resolveCatalogLeagueKeys configured (activeKeys db ++ [key])
  | _ => True

def CoveredSession (db : Database) (session : Session databaseMachine) : Prop :=
  ∃ run : OfferingRun, session.program = run.program runtime crypto isOddsApi configured ∧
    run.Covered configured session.moves db

variable {runtime crypto isOddsApi configured}

theorem createMerchant_complete (dto : CreateMerchantDto) (staff : StaffContext)
    (generated : Generated) {db : Database} (complete : Complete configured db) :
    Keeps (Complete configured) (fun _ _ => True)
      (createMerchant runtime crypto dto staff generated) db := by
  unfold createMerchant
  refine Upholds.bind (Upholds.transaction complete fun _ after done =>
    insertMerchant_complete complete done) fun group after complete _ => ?_
  refine Upholds.bind (Ingestion.keeps_recordAudit ?_ _ complete) fun _ _ complete _ =>
    Upholds.pure complete trivial
  exact fun _ _ held => held

/-- One run, stopped anywhere. -/
theorem CoveredSession.complete {db : Database} {session : Session databaseMachine}
    (covered : CoveredSession runtime crypto isOddsApi configured db session)
    (complete : Complete configured db) : Complete configured (session.result db) := by
  obtain ⟨run, same, covered⟩ := covered
  have alone : ∀ {program : Service Unit}, session.program = program →
      Keeps (Complete configured) (fun _ _ => True) program db →
      Complete configured (session.result db) := by
    intro program same kept
    exact (Upholds.result complete (same ▸ kept)).1
  cases run with
  | createMerchant dto staff generated =>
      exact alone same (Upholds.void (createMerchant_complete dto staff generated complete))
  | updateLeagues casinoGroupId leagues staff =>
      refine alone same (Upholds.void (Upholds.of_callsOnly ?_
        (updateLeagues_extends configured casinoGroupId leagues staff) complete))
      intro Reply query store more held group member
      rw [(more store).groups] at member
      exact (held group member).grows (more store) (.inr fun _ never => never.elim)
  | ingestFixtures fetched =>
      cases fetched with
      | error failure => exact alone same (Upholds.throw complete)
      | ok snapshot =>
          have result : Complete configured ((Session.mk (Ingestion.ingestFixtures runtime
              isOddsApi (.ok snapshot)).void session.moves).result db) :=
            ingestFixtures_complete complete covered
          rwa [Session.result, same]

/-- The listing of a tenant agrees with the offer exactly if the tenant has a row for
every listed league; and it agrees in every state that covered runs reach. -/
theorem agrees_after_runs {sessions : List (Session databaseMachine)} {db : Database}
    (start : Complete configured db)
    (each : Session.Each (CoveredSession runtime crypto isOddsApi configured) sessions db)
    (casinoGroupId : String) :
    (∀ db, Agrees configured db casinoGroupId ↔ (db.catalog.casinoGroups.Has casinoGroupId →
      ∀ league, Listed configured db league →
        db.catalog.casinoGroupLeagues.Has (casinoGroupId, league.key))) ∧
    ∀ earlier later, sessions = earlier ++ later →
      Agrees configured (Session.runAll earlier db) casinoGroupId := by
  refine ⟨fun _ => agrees_iff, fun earlier later split => ?_⟩
  rw [split, Session.each_append] at each
  have complete : Complete configured (Session.runAll earlier db) :=
    Session.runAll_preserves (fun _ _ held covered => covered.complete held) start each.1
  exact complete.agrees casinoGroupId

end Runs

section Sample

open Ingestion Text

def luckystar : CreateMerchantDto where
  slug := "luckystar"
  name := "LuckyStar Casino"

def luckystarKeys : Generated := ⟨"lucky", "operator", "secret", "password", "vector", "salt"⟩

def alone (run : OfferingRun) (count : ℕ) : Session databaseMachine :=
  ⟨run.program asciiRuntime plainCrypto true ["all"], List.replicate count (.run 0 .none)⟩

def onboard : Session databaseMachine :=
  alone (.createMerchant luckystar ⟨"admin", none, [.superAdmin]⟩ luckystarKeys) 2

def ingestNba : Session databaseMachine := alone (.ingestFixtures (.ok openTotals)) 40

def listedLeagues (db : Database) (casinoGroupId : String) : Option (List (String × Bool)) :=
  (((listLeagues ["all"] casinoGroupId).eval db).1.toOption).map fun offerings =>
    offerings.map fun row => (row.leagueId, row.enabled)

/-- The tenant is created before the league is first ingested. -/
theorem league_ingested_after_merchant :
    listedLeagues (Session.runAll [onboard, ingestNba] freshDatabase) "lucky" =
      some [("basketball_nba", true)] ∧
    leagueEnabled (Session.runAll [onboard, ingestNba] freshDatabase) "lucky" "basketball_nba" =
      false ∧
    ¬ ∀ runtime crypto isOddsApi configured (sessions : List (Session databaseMachine)) db
        casinoGroupId, Complete configured db →
      (∀ session ∈ sessions, ∃ run : OfferingRun,
        session.program = run.program runtime crypto isOddsApi configured) →
      Agrees configured (Session.runAll sessions db) casinoGroupId := by
  have listed : listedLeagues (Session.runAll [onboard, ingestNba] freshDatabase) "lucky" =
      some [("basketball_nba", true)] := by decide +kernel
  have off : leagueEnabled (Session.runAll [onboard, ingestNba] freshDatabase) "lucky"
      "basketball_nba" = false := by decide +kernel
  refine ⟨listed, off, fun always => ?_⟩
  have agrees := always asciiRuntime plainCrypto true ["all"] [onboard, ingestNba] freshDatabase
    "lucky" (fun _ _ _ never => nomatch never) (by
      intro session member
      rcases List.mem_pair.mp member with rfl | rfl
      · exact ⟨.createMerchant luckystar ⟨"admin", none, [.superAdmin]⟩ luckystarKeys, rfl⟩
      · exact ⟨.ingestFixtures (.ok openTotals), rfl⟩)
  unfold listedLeagues at listed
  cases outcome : ((listLeagues ["all"] "lucky").eval
      (Session.runAll [onboard, ingestNba] freshDatabase)).1 with
  | error failure =>
      rw [outcome] at listed
      cases listed
  | ok offerings =>
      rw [outcome] at listed
      have rows : offerings.map (fun row => (row.leagueId, row.enabled)) =
          [("basketball_nba", true)] := Option.some.inj listed
      have one : ("basketball_nba", true) ∈
          offerings.map fun row => (row.leagueId, row.enabled) := by simp [rows]
      obtain ⟨row, member, shown⟩ := List.mem_map.mp one
      obtain ⟨league, enabled⟩ := Prod.mk.inj shown
      have same := agrees offerings outcome row member
      rw [league, enabled, off] at same
      cases same

/-- The league is ingested for the synced tenant first; the new tenant gets its row when it
is created, and nothing is added later. -/
theorem merchant_after_league_agrees :
    Agrees ["all"] (Session.runAll [ingestNba, onboard, ingestNba] freshDatabase) "lucky" := by
  have synced : ∀ group ∈ freshDatabase.catalog.casinoGroups,
      Synced openTotals ingestNba.moves freshDatabase group := by
    intro group member
    rw [← Table.mem_rows, freshDatabase, List.mem_singleton] at member
    rw [member]
    exact ⟨.inl rfl, by decide +kernel⟩
  have known : ∀ league ∈ openTotals.leagues,
      ((onboard.result (ingestNba.result freshDatabase)).catalog.leagues.get?
        league.key).isSome = true := by decide +kernel
  have added : ∀ key,
      ¬ Adds (onboard.result (ingestNba.result freshDatabase)) openTotals key := by
    intro key adds
    obtain ⟨fresh, league, listed, rfl, _⟩ := adds
    obtain ⟨row, found⟩ := Option.isSome_iff_exists.mp (known league listed)
    exact fresh ⟨row, Table.get?_eq_some_iff.mp found⟩
  have each : Session.Each (CoveredSession asciiRuntime plainCrypto true ["all"])
      [ingestNba, onboard, ingestNba] freshDatabase := by
    refine ⟨?_, ?_, ?_, trivial⟩
    · exact ⟨.ingestFixtures (.ok openTotals), rfl, fun group member => .inl (synced group member)⟩
    · exact ⟨.createMerchant luckystar ⟨"admin", none, [.superAdmin]⟩ luckystarKeys, rfl, trivial⟩
    · exact ⟨.ingestFixtures (.ok openTotals), rfl,
        fun group member => .inr fun key adds => absurd adds (added key)⟩
  have start : Complete ["all"] freshDatabase := fun _ _ _ never => nomatch never
  exact (agrees_after_runs start each "lucky").2 _ []
    (List.append_nil _).symm

end Sample

end SportsBetting.Product
