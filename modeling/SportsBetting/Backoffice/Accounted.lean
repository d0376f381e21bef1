import SportsBetting.Backoffice.AuditLog

/-!
# Which changes the audit log accounts for

A change is accounted for unless its mutation stops before the insert of the entry, or that
insert is refused.
-/

namespace SportsBetting.Portal

open Async Program Trading Journal

section Rules

variable {before portal : State} {accounted : State → Prop} {α : Type}

/-- What a query answers, and what it leaves, unless it meets a fault. -/
theorem safe_query {query : Query Database Failure α}
    (proper : ∀ later : State, later.store = portal.store →
      auditLog.notes before <+: auditLog.notes later →
      (auditLog.accounting before accounted).proper (.database query) later) :
    (auditLog.accounting before accounted).Safe
      (fun outcome after => ∀ value, outcome = .ok value →
        (query portal.world.db).1 = .ok value ∧
          after.store = ((query portal.world.db).2, portal.limits))
      (Program.call (.database query)) portal := by
  refine Contract.Safe.call fun later waited sound => ?_
  have same := store_eq waited.1 waited.2
  refine ⟨proper later same sound, fun choice _ value returned => ?_⟩
  obtain ⟨db, limits⟩ := Prod.mk.inj same
  simp only [State.perform] at returned ⊢
  cases fault : choice.fault with
  | none =>
      simp only [fault, db] at returned ⊢
      exact ⟨returned, Prod.ext rfl limits⟩
  | refused => simp [fault] at returned
  | unacknowledged => simp [fault] at returned

theorem quiet_query {query : Query Database Failure α}
    (same : ∀ db, (query db).2.audit = db.audit) : auditLog.Quiet (.database query) := by
  intro choice portal
  simp only [State.perform]
  cases choice.fault with
  | refused => rfl
  | none => exact same portal.world.db
  | unacknowledged => exact same portal.world.db

theorem safe_read (view : Database → α) :
    (auditLog.accounting before accounted).Safe
      (fun outcome after => ∀ value, outcome = .ok value →
        value = view portal.world.db ∧ after.store = portal.store)
      (prisma (read view)) portal := by
  have quiet : auditLog.Quiet (.database (Query.read view)) := quiet_query fun _ => rfl
  refine Contract.Safe.mono (fun outcome after held value same => ?_)
    (safe_query fun later _ _ => quiet.proper later)
  obtain ⟨answered, store⟩ := held value same
  exact ⟨(Except.ok.inj answered).symm, store⟩

theorem safe_write {change : Database → Database} (same : ∀ db, (change db).audit = db.audit) :
    (auditLog.accounting before accounted).Safe
      (fun outcome after => ∀ value, outcome = .ok value →
        after.store = (change portal.world.db, portal.limits))
      (prisma (write change)) portal := by
  have quiet : auditLog.Quiet (.database (Query.write change)) := quiet_query same
  exact Contract.Safe.mono (fun outcome after held value same => (held value same).2)
    (safe_query fun later _ _ => quiet.proper later)

/-- A service that only reads leaves everything as it is. -/
theorem safe_reading {service : Service α} (only : service.CallsOnly Reads) :
    (auditLog.accounting before accounted).Safe (fun _ after => after.store = portal.store)
      (prisma service) portal := by
  have reads : (prisma service).CallsOnly fun request =>
      ∀ choice state, (State.perform choice request state).2.store = state.store := by
    unfold prisma
    exact only.mapCalls fun query reads => reads.store
  refine Contract.Safe.of_callsOnly ?_ ?_ ?_ reads rfl
  · intro _ _ first second waited held
    exact (store_eq waited.1 waited.2).trans held
  · intro _ request state same
    have quiet : auditLog.Quiet request := fun choice state => notes_of_store (same choice state)
    exact quiet.proper state
  · intro _ request choice state same held
    exact (same choice state).trans held

/-- The store with one more entry in the log. -/
def recorded (entry : AuditEntry) (portal : State) : Database × RiskLimits :=
  ({ portal.world.db with audit := portal.world.db.audit ++ [entry] }, portal.limits)

/-- An insert that is not refused is carried out. -/
theorem store_insertion {entry : AuditEntry} {choice : Choice}
    (keeps : auditLog.Keeps portal choice (.database (insertion entry))) :
    (portal.perform choice (.database (insertion entry))).2.store = recorded entry portal := by
  simp only [State.perform]
  cases fault : choice.fault with
  | none => rfl
  | unacknowledged => rfl
  | refused =>
      refine absurd (keeps (insertion_can choice portal)) ?_
      simp [State.perform, fault]

theorem safe_recordAudit {entry : AuditEntry} (accounts : ∀ after : State,
      before.world.db.audit <+: portal.world.db.audit → after.store = recorded entry portal →
        accounted after) :
    (auditLog.accounting before accounted).Safe
      (fun _ after => before.world.db.audit <+: portal.world.db.audit ∧
        after.store = recorded entry portal)
      (prisma (recordAudit entry)) portal := by
  intro later waited sound
  have same := store_eq waited.1 waited.2
  have made : ∀ choice, auditLog.Keeps later choice (.database (insertion entry)) →
      (later.perform choice (.database (insertion entry))).2.store = recorded entry portal := by
    intro choice keeps
    rw [store_insertion keeps]
    obtain ⟨db, limits⟩ := Prod.mk.inj same
    rw [recorded, recorded, db, limits]
  have start : before.world.db.audit <+: later.world.db.audit := sound
  rw [notes_of_store same] at start
  constructor
  · intro choice keeps
    have store := made choice keeps
    have notes : (later.perform choice (.database (insertion entry))).2.world.db.audit =
        portal.world.db.audit ++ [entry] :=
      congrArg (fun store : Database × RiskLimits => store.1.audit) store
    refine ⟨⟨[entry], ?_⟩, fun _ => accounts _ start store⟩
    exact (congrArg (· ++ [entry]) waited.2).trans notes.symm
  · intro choice keeps
    have store := made choice keeps
    show Contract.Safe _ _ (Program.mapCalls Call.database
      (Program.handle (.done (later.perform choice (.database (insertion entry))).1) _)) _
    cases (later.perform choice (.database (insertion entry))).1 with
    | ok value => exact ⟨start, store⟩
    | error failure => exact ⟨start, store⟩

end Rules

section Offerings

open Product

variable {casinoGroupId staffUserId league : String} {before portal after : State}

/-- The offering that was set is recorded, and the others are accounted for as before. -/
theorem OfferingsAccounted.recorded {entry : AuditEntry} {enabled locked : Bool}
    (held : OfferingsAccounted casinoGroupId staffUserId before portal)
    (start : before.world.db.audit <+: portal.world.db.audit)
    (meant : Names staffUserId "product.league_offering_updated" "CasinoGroupLeague"
      (casinoGroupId ++ ":" ++ league) entry)
    (store : after.store = ({ setOffering portal.world.db casinoGroupId league enabled locked with
      audit := portal.world.db.audit ++ [entry] }, portal.limits)) :
    OfferingsAccounted casinoGroupId staffUserId before after := by
  obtain ⟨db, limits⟩ := Prod.mk.inj store
  have notes : after.world.db.audit = portal.world.db.audit ++ [entry] := congrArg Database.audit db
  have rows : after.rows = { portal.rows with
      catalog.casinoGroupLeagues := portal.rows.catalog.casinoGroupLeagues.put
        ⟨casinoGroupId, league, enabled, locked⟩ } := by
    unfold State.rows
    rw [db, limits]
    rfl
  refine ⟨?_, fun group other differs => ?_⟩
  · rw [rows]
    exact held.others
  · have put : offeringOf after.rows group other =
        if (casinoGroupId, league) = (group, other) then
          some ⟨casinoGroupId, league, enabled, locked⟩
        else offeringOf portal.rows group other := by
      unfold offeringOf
      rw [rows, Table.get?_put]
      rfl
    by_cases same : (casinoGroupId, league) = (group, other)
    · obtain ⟨rfl, rfl⟩ := Prod.mk.inj same
      exact ⟨rfl, since_of_append start notes meant⟩
    · rw [put, if_neg same] at differs
      exact (held.offerings group other differs).imp_right fun since =>
        since.extend ⟨[entry], notes.symm⟩

theorem upsertOffering_eq (db : Database) (casinoGroupId league : String)
    (enabled platformLocked operatorOnly : Bool) :
    ∃ locked, upsertOffering db casinoGroupId league enabled platformLocked operatorOnly =
      setOffering db casinoGroupId league enabled locked := by
  cases operatorOnly with
  | false => exact ⟨_, upsertOffering_platform enabled platformLocked⟩
  | true =>
      rcases upsertOffering_operator db casinoGroupId league enabled platformLocked with
        same | ⟨_, same⟩
      · exact ⟨_, same⟩
      · exact ⟨_, same⟩

/-- What is not recorded is no change. -/
theorem upsertOffering_unchanged {db : Database} {input : Offering}
    (existing : input.existing = db.catalog.casinoGroupLeagues.get?
      (input.casinoGroupId, input.leagueId)) (unchanged : ¬ input.changed = true) :
    upsertOffering db input.casinoGroupId input.leagueId input.enabled input.platformLocked
      input.operatorOnly = db := by
  unfold Offering.changed at unchanged
  cases found : input.existing with
  | none => simp [found] at unchanged
  | some row =>
      rw [found] at existing unchanged
      simp only [Bool.or_eq_true, Bool.and_eq_true, decide_eq_true_eq, Bool.not_eq_true',
        not_or, not_and, not_not] at unchanged
      obtain ⟨enabled, locked⟩ := unchanged
      have same : (if input.operatorOnly then { row with enabled := input.enabled }
          else { row with enabled := input.enabled, platformLocked := input.platformLocked }) =
          row := by
        cases operator : input.operatorOnly with
        | true => simp [← enabled]
        | false => simp [← enabled, ← locked operator]
      unfold upsertOffering
      rw [← existing]
      dsimp only
      rw [same, Table.put_eq_self (Table.get?_eq_some_iff.mp existing.symm).1]

section Programs

abbrev auditingOfferings (casinoGroupId staffUserId : String) (before : State) : Contract machine :=
  auditLog.accounting before (OfferingsAccounted casinoGroupId staffUserId before)

theorem safe_persistOffering {input : Offering}
    (existing : input.existing = portal.world.db.catalog.casinoGroupLeagues.get?
      (input.casinoGroupId, input.leagueId))
    (held : OfferingsAccounted input.casinoGroupId input.staffUserId before portal) :
    (auditingOfferings input.casinoGroupId input.staffUserId before).Safe
      (Returns (OfferingsAccounted input.casinoGroupId input.staffUserId before))
      (prisma (persistOffering input)) portal := by
  have quiet : ∀ db, (upsertOffering db input.casinoGroupId input.leagueId input.enabled
      input.platformLocked input.operatorOnly).audit = db.audit := fun _ => rfl
  unfold persistOffering prisma
  rw [mapCalls_bind]
  refine Contract.Safe.bind (safe_write quiet) (fun _ middle wrote => ?_)
    fun _ _ _ => returns_error
  have store := wrote _ rfl
  have notes : middle.world.db.audit = portal.world.db.audit :=
    (congrArg Database.audit (Prod.mk.inj store).1).trans (quiet _)
  obtain ⟨locked, set⟩ := upsertOffering_eq portal.world.db input.casinoGroupId input.leagueId
    input.enabled input.platformLocked input.operatorOnly
  obtain ⟨db, limits⟩ := Prod.mk.inj store
  split
  · have meant : Names input.staffUserId "product.league_offering_updated" "CasinoGroupLeague"
        (input.casinoGroupId ++ ":" ++ input.leagueId) input.entry := ⟨rfl, rfl, rfl, rfl, rfl⟩
    have accounts : ∀ after : State, before.world.db.audit <+: middle.world.db.audit →
        after.store = recorded input.entry middle →
          OfferingsAccounted input.casinoGroupId input.staffUserId before after := by
      intro after start kept
      have shown : after.store = ({ setOffering portal.world.db input.casinoGroupId input.leagueId
          input.enabled locked with audit := portal.world.db.audit ++ [input.entry] },
            portal.limits) := by
        rw [kept, recorded, notes, db, limits, set]
      rw [notes] at start
      exact held.recorded start meant shown
    exact Contract.Safe.mono (fun _ after made _ _ => accounts after made.1 made.2)
      (safe_recordAudit accounts)
  · next unchanged =>
      intro _ _
      refine OfferingsAccounted.congr ?_ notes held
      rw [upsertOffering_unchanged existing unchanged] at store
      exact rows_of_store store

theorem safe_updateLeague {allowedKeys : List String} {staff : StaffContext}
    {item : LeagueOfferingDto} (held : OfferingsAccounted casinoGroupId staff.staffUserId before
      portal) :
    (auditingOfferings casinoGroupId staff.staffUserId before).Safe
      (Returns (OfferingsAccounted casinoGroupId staff.staffUserId before))
      (prisma (updateLeague casinoGroupId allowedKeys staff item)) portal := by
  have stays : ∀ {first second : State}, second.store = first.store →
      OfferingsAccounted casinoGroupId staff.staffUserId before first →
        OfferingsAccounted casinoGroupId staff.staffUserId before second := fun same =>
    OfferingsAccounted.congr (rows_of_store same) (notes_of_store same)
  have failed : ∀ failure (after : State),
      (auditingOfferings casinoGroupId staff.staffUserId before).Safe
        (Returns (OfferingsAccounted casinoGroupId staff.staffUserId before))
        (.done (.error failure) : PortalService Unit) after :=
    fun _ _ => Contract.Safe.done returns_error
  unfold updateLeague prisma
  rw [mapCalls_bind]
  refine Contract.Safe.bind (safe_read _) (fun league first seen => ?_) fun failure after _ =>
    failed failure after
  obtain ⟨_, same⟩ := seen league rfl
  rcases league with _ | ⟨league, sportActive⟩
  · exact failed _ _
  dsimp only
  split
  · exact failed _ _
  rw [mapCalls_bind]
  refine Contract.Safe.bind (safe_read _) (fun existing second looked => ?_) fun failure after _ =>
    failed failure after
  obtain ⟨existing_eq, again⟩ := looked existing rfl
  have now := stays again (stays same held)
  have stored : existing = second.world.db.catalog.casinoGroupLeagues.get?
      (casinoGroupId, item.leagueId) := by
    rw [existing_eq, (Prod.mk.inj again).1]
  split
  · split
    · exact failed _ _
    split
    · exact failed _ _
    · exact safe_persistOffering stored now
  · split
    · exact failed _ _
    · exact safe_persistOffering stored now

theorem safe_updateLeagues (configured : List String) (casinoGroupId : String)
    (leagues : List LeagueOfferingDto) (staff : StaffContext) (before : State) :
    (auditingOfferings casinoGroupId staff.staffUserId before).Safe
      (Returns (OfferingsAccounted casinoGroupId staff.staffUserId before))
      (prisma (updateLeagues configured casinoGroupId leagues staff)) before := by
  have start : OfferingsAccounted casinoGroupId staff.staffUserId before before :=
    ⟨rfl, fun _ _ differs => absurd rfl differs⟩
  unfold updateLeagues prisma
  rw [mapCalls_bind]
  refine Contract.Safe.bind (safe_reading ?_) (fun _ first same => ?_) fun _ _ _ => returns_error
  · refine (read_reads _).bind fun group => ?_
    cases group <;> trivial
  rw [mapCalls_bind]
  refine Contract.Safe.bind (safe_reading ?_) (fun allowedKeys second again => ?_)
    fun _ _ _ => returns_error
  · exact (read_reads _).bind fun _ => trivial
  have whole : second.store = before.store := again.trans same
  have now := OfferingsAccounted.congr (rows_of_store whole) (notes_of_store whole) start
  have loop : (auditingOfferings casinoGroupId staff.staffUserId before).Safe
      (Returns (OfferingsAccounted casinoGroupId staff.staffUserId before))
      (leagues.forM fun item => prisma (updateLeague casinoGroupId allowedKeys staff item)) second := by
    refine Contract.Safe.forM (fun item state held => ?_) (fun _ held _ _ => held) now
    refine Contract.Safe.mono (fun outcome after accounted => ?_) (safe_updateLeague held)
    cases outcome with
    | ok value => exact accounted value rfl
    | error failure => exact returns_error
  rw [mapCalls_bind, mapCalls_forM]
  refine Contract.Safe.bind loop (fun value third held => ?_) fun _ _ _ => returns_error
  refine Contract.Safe.mono (fun _ after kept _ _ => ?_) (safe_reading ?_)
  · exact OfferingsAccounted.congr (rows_of_store kept) (notes_of_store kept) (held value rfl)
  · refine CallsOnly.bind (CallsOnly.bind (read_reads _) fun group => ?_) fun _ =>
      CallsOnly.bind (CallsOnly.bind (read_reads _) fun _ => trivial) fun keys => ?_
    · cases group <;> trivial
    · split
      · trivial
      · exact read_reads _

end Programs

end Offerings

section Limits

variable {casinoGroupId staffUserId : String} {before portal : State} {α : Type}

theorem LimitPatch.apply_key {patch : LimitPatch} {limit patched : RiskLimit}
    (applied : patch.apply limit = .ok patched) : patched.key = limit.key := by
  obtain ⟨_, _, applied⟩ := Except.bind_eq_ok.mp applied
  obtain ⟨_, _, applied⟩ := Except.bind_eq_ok.mp applied
  obtain ⟨_, _, applied⟩ := Except.bind_eq_ok.mp applied
  obtain rfl := Except.pure_eq_ok.mp applied
  rfl

/-- The limit that is returned is the one of the tenant. -/
theorem upsertLimit_ok {patch : LimitPatch} {freshId : String} {db : Database}
    {limits after : RiskLimits} {limit : RiskLimit}
    (upserted : upsertLimit casinoGroupId patch freshId db limits = .ok (limit, after)) :
    limit ∈ after ∧ limit.key = globalKey casinoGroupId := by
  obtain ⟨old, found, upserted⟩ := Except.bind_eq_ok.mp upserted
  obtain ⟨patched, applied, upserted⟩ := Except.bind_eq_ok.mp upserted
  obtain ⟨rfl, rfl⟩ := Prod.mk.inj (Except.pure_eq_ok.mp upserted)
  refine ⟨Table.mem_put_self _ _, (LimitPatch.apply_key applied).trans ?_⟩
  unfold globalLimit at found
  split at found
  · next limit stored =>
      obtain rfl := Except.ok.inj found
      exact (Table.get?_eq_some_iff.mp stored).2
  · split at found
    · cases found
    · obtain rfl := Except.ok.inj found
      rfl

theorem safe_limits {accounted : State → Prop} (query : String → Database → Query RiskLimits Failure α) :
    (auditLog.accounting before accounted).Safe
      (fun outcome after => ∀ value, outcome = .ok value → ∃ freshId db limits,
        query freshId db limits = (.ok value, after.limits))
      (Program.call (.limits query)) portal := by
  refine Contract.Safe.call fun later _ _ => ?_
  have quiet : auditLog.Quiet (.limits query) := fun _ _ => rfl
  refine ⟨quiet.proper later, fun choice _ value returned => ?_⟩
  refine ⟨choice.freshId, later.world.db, later.limits, ?_⟩
  simp only [State.perform] at returned ⊢
  cases fault : choice.fault with
  | none =>
      simp only [fault] at returned ⊢
      exact Prod.ext returned rfl
  | refused => simp [fault] at returned
  | unacknowledged => simp [fault] at returned

theorem safe_patchLimits (casinoGroupId : String) (dto : PatchRiskLimitsDto)
    (staffUserId : String) (before : State) :
    (auditLog.accounting before (LimitsAccounted casinoGroupId staffUserId before)).Safe
      (Returns (LimitsAccounted casinoGroupId staffUserId before))
      (Portal.patchLimits casinoGroupId dto staffUserId) before := by
  refine Contract.Safe.bind (safe_limits _) (fun old first _ => ?_) fun _ _ _ => returns_error
  cases dto.parse with
  | error failure => exact returns_error
  | ok patch =>
      refine Contract.Safe.bind (safe_limits _) (fun limit second upserted => ?_)
        fun _ _ _ => returns_error
      obtain ⟨freshId, db, limits, answered⟩ := upserted limit rfl
      have stored : limit ∈ second.limits ∧ limit.key = globalKey casinoGroupId := by
        unfold Query.transaction at answered
        split at answered
        · next reply after done =>
            obtain ⟨same, rfl⟩ := Prod.mk.inj answered
            obtain rfl := Except.ok.inj same
            exact upsertLimit_ok done
        · cases (Prod.mk.inj answered).1
      have meant : Names staffUserId "trading.limits_updated" "RiskLimit" limit.id
          (limitsEntry casinoGroupId staffUserId old limit) := ⟨rfl, rfl, rfl, rfl, rfl⟩
      have accounts : ∀ after : State, before.world.db.audit <+: second.world.db.audit →
          after.store = recorded (limitsEntry casinoGroupId staffUserId old limit) second →
          LimitsAccounted casinoGroupId staffUserId before after := by
        intro after start kept _
        obtain ⟨log, kept_limits⟩ := Prod.mk.inj kept
        refine ⟨limit, kept_limits ▸ stored.1, stored.2, ?_⟩
        exact since_of_append start (congrArg Database.audit log) meant
      exact Contract.Safe.bind (safe_recordAudit accounts)
        (fun _ after made => Contract.Safe.done fun _ _ => accounts after made.1 made.2)
        fun _ _ _ => returns_error

end Limits

section ManualResult

open Ingestion

variable {eventId staffUserId : String} {before portal : State}

/-- A query that inserts no entry and settles nothing. -/
def Unsettling {Reply : Type} (query : Query Database Failure Reply) : Prop :=
  ∀ db, (query db).2.audit = db.audit ∧ settled (query db).2.ledger = settled db.ledger

theorem settled_clearSettlementNotes (db : Database) (eventRef : String) :
    settled (clearSettlementNotes db eventRef).ledger = settled db.ledger := by
  refine Prod.ext ?_ rfl
  simp only [settled, clearSettlementNotes, Ledger.modifyBets, Table.updateWhere, List.map_map]
  refine List.map_congr_left fun bet _ => ?_
  dsimp only [Function.comp_apply]
  split <;> rfl

theorem endEvent_ledger {db after : Database} {event : Event} {homeScore awayScore : ℤ}
    (done : endEvent db event homeScore awayScore = .ok after) :
    after.audit = db.audit ∧ after.ledger = db.ledger := by
  unfold endEvent at done
  split at done
  · cases done
  · obtain rfl := Except.ok.inj done
    exact ⟨rfl, rfl⟩

theorem finalizeEventResult_unsettling (providerRef : String) (homeScore awayScore : ℤ) :
    (finalizeEventResult providerRef homeScore awayScore).CallsOnly Unsettling := by
  refine CallsOnly.bind ((callsOnly_call _).mpr fun _ => ⟨rfl, rfl⟩) fun event => ?_
  cases event with
  | none => trivial
  | some event =>
      refine CallsOnly.bind ((callsOnly_call _).mpr fun db => ?_) fun _ => ?_
      · simp only [Query.attempt]
        cases done : endEvent db event homeScore awayScore with
        | error failure => exact ⟨rfl, rfl⟩
        | ok after =>
            obtain ⟨audit, ledger⟩ := endEvent_ledger done
            exact ⟨audit, congrArg settled ledger⟩
      · refine CallsOnly.bind (CallsOnly.bind ((callsOnly_call _).mpr fun _ => ⟨rfl, rfl⟩)
          fun _ => (callsOnly_call _).mpr fun _ => ⟨rfl, rfl⟩) fun _ => ?_
        refine CallsOnly.bind ((callsOnly_call _).mpr fun db => ⟨rfl, ?_⟩) fun _ => trivial
        exact settled_clearSettlementNotes db event.providerRef

theorem safe_unsettling {accounted : State → Prop} {α : Type} {service : Service α}
    (only : service.CallsOnly Unsettling) :
    (auditLog.accounting before accounted).Safe
      (fun _ after => settled after.rows.ledger = settled portal.rows.ledger)
      (prisma service) portal := by
  have calls : (prisma service).CallsOnly fun request => ∀ choice state,
      (State.perform choice request state).2.world.db.audit = state.world.db.audit ∧
        settled (State.perform choice request state).2.rows.ledger =
          settled state.rows.ledger := by
    unfold prisma
    refine CallsOnly.mapCalls (fun query unsettling choice state => ?_) only
    simp only [State.perform]
    cases choice.fault with
    | refused => exact ⟨rfl, rfl⟩
    | none => exact unsettling state.world.db
    | unacknowledged => exact unsettling state.world.db
  refine Contract.Safe.of_callsOnly ?_ ?_ ?_ calls rfl
  · intro _ _ first second waited held
    have same : second.rows = first.rows := waited.1
    rwa [same]
  · intro _ request state unsettling
    have quiet : auditLog.Quiet request := fun choice state => (unsettling choice state).1
    exact quiet.proper state
  · intro _ request choice state unsettling held
    exact (unsettling choice state).2.trans held

theorem inserts_of_settles {Reply : Type} {call : BettingCall Reply}
    (settles : call.Settles) : Inserts (fun _ => False) call := by
  cases call with
  | write transaction =>
      cases transaction with
      | recordAudit => exact settles.elim
      | _ => exact fun _ never => nomatch never
  | read | randomUUID | getBalance | postTransaction | postBatch => trivial

/-- Settling the bets of an event keeps what the log says. -/
theorem safe_settleBetsForEvent {accounted : State → Prop} {kind : AuditEntry → Prop}
    (runtime : Text.Runtime) (eventId casinoGroupId : String)
    (since : auditLog.Since before kind portal) :
    (auditLog.accounting before accounted).Safe (fun _ after => auditLog.Since before kind after)
      (betting (SettlementService.settleBetsForEvent runtime eventId casinoGroupId)) portal := by
  have quiet : (betting (SettlementService.settleBetsForEvent runtime eventId
      casinoGroupId)).CallsOnly auditLog.Quiet :=
    (betting_adds ((settleBetsForEvent_settles eventId casinoGroupId).mono fun _ settles =>
      inserts_of_settles settles)).mono fun _ adds => adds.quiet
  refine Contract.Safe.of_callsOnly ?_ (fun request state quiet => quiet.proper state) ?_ quiet since
  · intro _ _ first second waited held
    exact since_congr waited.2 held
  · intro _ request choice state quiet held
    exact since_congr (quiet choice state) held

theorem safe_applyManualResultAndSettle (runtime : Text.Runtime) (casinoGroupId eventId : String)
    (homeScore awayScore : ℤ) (staffUserId : String) (before : State) :
    (auditLog.accounting before (ResultAccounted eventId staffUserId before)).Safe
      (Returns (ResultAccounted eventId staffUserId before))
      (applyManualResultAndSettle runtime casinoGroupId eventId homeScore awayScore staffUserId)
      before := by
  refine Contract.Safe.bind (safe_read _) (fun openBets first counted => ?_)
    fun _ _ _ => returns_error
  split
  · exact returns_error
  refine Contract.Safe.bind (safe_read _) (fun event second looked => ?_)
    fun _ _ _ => returns_error
  have same : second.rows = before.rows :=
    rows_of_store ((looked event rfl).2.trans (counted openBets rfl).2)
  cases event with
  | none => exact returns_error
  | some event =>
      refine Contract.Safe.bind (safe_unsettling (finalizeEventResult_unsettling _ _ _))
        (fun updatedEventId third kept => ?_) fun _ _ _ => returns_error
      rw [same] at kept
      cases updatedEventId with
      | none => exact returns_error
      | some _ =>
          have resultRecorded : ∀ after : State, before.world.db.audit <+: third.world.db.audit →
              after.store = recorded (settlementEntry casinoGroupId eventId staffUserId
                "settlement.manual_result" "Staff entered final score for settlement"
                [("homeScore", toString homeScore), ("awayScore", toString awayScore),
                  ("providerRef", event.providerRef)]) third →
              Recorded before after staffUserId "settlement.manual_result" "Event" eventId := by
            intro after start store
            have log := congrArg Database.audit (Prod.mk.inj store).1
            exact since_of_append start log ⟨rfl, rfl, rfl, rfl, rfl⟩
          refine Contract.Safe.bind (safe_recordAudit fun after start store => ?_)
            (fun _ fourth noted => ?_) fun _ _ _ => returns_error
          · -- nothing is settled before the result is recorded
            refine ⟨fun _ => resultRecorded after start store, fun differs => absurd ?_ differs⟩
            have ledger : after.rows.ledger = third.rows.ledger :=
              congrArg (fun store : Database × RiskLimits => store.1.ledger) store
            rw [ledger, kept]
          have result := resultRecorded fourth noted.1 noted.2
          refine Contract.Safe.bind (safe_settleBetsForEvent runtime eventId casinoGroupId result)
            (fun counts fifth still => ?_) fun _ _ _ => returns_error
          have accounts : ∀ after : State, before.world.db.audit <+: fifth.world.db.audit →
              after.store = recorded (settlementEntry casinoGroupId eventId staffUserId
                "settlement.event_run" "Settlement run after manual result"
                [("settled", toString counts.1), ("attempted", toString counts.2)]) fifth →
              ResultAccounted eventId staffUserId before after := by
            intro after start store
            have log := congrArg Database.audit (Prod.mk.inj store).1
            exact ⟨fun _ => still.extend ⟨_, log.symm⟩,
              fun _ => since_of_append start log ⟨rfl, rfl, rfl, rfl, rfl⟩⟩
          exact Contract.Safe.bind (safe_recordAudit accounts)
            (fun _ after made => Contract.Safe.done fun _ _ => accounts after made.1 made.2)
            fun _ _ _ => returns_error

end ManualResult

section Mutations

/-- A mutation that notes its changes, all under the same names. -/
theorem safe_of_names {actorId action entityType entityId : String} {mutation : Mutation}
    {before : State} {α : Type} {program : PortalService α}
    (accounts : ∀ now : State, (now.rows ≠ before.rows →
      Recorded before now actorId action entityType entityId) → mutation.Accounted before now)
    (changes : auditLog.NotesChanges (Names actorId action entityType entityId) program) :
    (auditLog.accounting before fun now => mutation.Accounted before now).Safe
      (Returns fun now => mutation.Accounted before now) program before :=
  changes.safe (Mutation.Accounted.congr mutation) (fun now since => accounts now fun _ => since)
    (mutation.accounted_start before)

theorem safe_mutation (configured : List String) (runtime : Text.Runtime) (mutation : Mutation)
    (before : State) :
    (auditLog.accounting before fun now => mutation.Accounted before now).Safe
      (Returns fun now => mutation.Accounted before now)
      (mutation.program configured runtime) before := by
  cases mutation with
  | updateLeagues casinoGroupId leagues staff =>
      exact safe_void (safe_updateLeagues configured casinoGroupId leagues staff before)
  | patchTenant casinoGroupId dto staffUserId =>
      refine safe_void (safe_of_names (fun _ held => held) ?_)
      exact patchTenant_notesChanges casinoGroupId dto staffUserId
        fun _ _ => ⟨rfl, rfl, rfl, rfl, rfl⟩
  | patchLimits casinoGroupId dto staffUserId =>
      exact safe_void (safe_patchLimits casinoGroupId dto staffUserId before)
  | suspendEvent casinoGroupId eventId reason staffUserId =>
      refine safe_of_names (fun _ held => held) ?_
      exact suspendEvent_notesChanges casinoGroupId eventId reason staffUserId
        ⟨rfl, rfl, rfl, rfl, rfl⟩
  | suspendMarket casinoGroupId marketId reason staffUserId =>
      refine safe_of_names (fun _ held => held) ?_
      exact suspendMarket_notesChanges casinoGroupId marketId reason staffUserId
        ⟨rfl, rfl, rfl, rfl, rfl⟩
  | resumeMarket casinoGroupId marketId staffUserId =>
      refine safe_of_names (fun _ held => held) ?_
      exact resumeMarket_notesChanges casinoGroupId marketId staffUserId ⟨rfl, rfl, rfl, rfl, rfl⟩
  | voidBet casinoGroupId betId reason staffUserId =>
      refine safe_void (safe_of_names (fun _ held => held) ?_)
      exact voidBet_notesChanges casinoGroupId betId reason staffUserId ⟨rfl, rfl, rfl, rfl, rfl⟩
  | applyManualResultAndSettle casinoGroupId eventId homeScore awayScore staffUserId =>
      exact safe_void (safe_applyManualResultAndSettle runtime casinoGroupId eventId homeScore
        awayScore staffUserId before)
  | setPlatformAdminTenantAccess staffUserId casinoGroupIds actorStaffUserId =>
      refine safe_void (safe_of_names (fun _ held => held) ?_)
      exact setPlatformAdminTenantAccess_notesChanges staffUserId casinoGroupIds actorStaffUserId
        fun _ _ => ⟨rfl, rfl, rfl, rfl, rfl⟩

variable (configured : List String) (runtime : Text.Runtime) (mutation : Mutation) (portal : State)
  (moves : List (Move machine))

/-- Wherever a mutation stops, the log accounts for what it changed, unless an audit insert was
refused, or the mutation was interrupted between a change and the insert after it. -/
theorem mutations_accounted
    (kept : (start configured runtime mutation portal).Follows auditLog.guard moves)
    (whole : ¬ auditLog.Interrupted (start configured runtime mutation portal) moves) :
    mutation.Accounted portal ((start configured runtime mutation portal).run moves).state :=
  accounted_of_uninterrupted (Mutation.Accounted.congr mutation) rfl
    (safe_mutation configured runtime mutation portal) (List.prefix_refl _)
    (mutation.accounted_start portal) kept whole

end Mutations

section Faults

/-- Without a fault, no insert is refused. -/
theorem keeps_of_faultless {choice : Choice} (plain : choice.fault = .none) {Reply : Type}
    (request : Call Reply) (portal : State) : auditLog.Keeps portal choice request := by
  rintro ⟨other, noted⟩
  cases request with
  | database query =>
      simp only [State.perform] at noted ⊢
      rw [plain]
      cases fault : other.fault with
      | refused =>
          rw [fault] at noted
          exact absurd rfl noted
      | none =>
          rw [fault] at noted
          exact noted
      | unacknowledged =>
          rw [fault] at noted
          exact noted
  | betting call =>
      have silent : Inserts (fun _ => False) call →
          auditLog.notes (portal.perform choice (.betting call)).2 ≠ auditLog.notes portal :=
        fun inserts => absurd (inserts.adds.quiet other portal) noted
      cases call with
      | write transaction =>
          cases transaction with
          | recordAudit entry =>
              simp [State.perform, World.answer, plain, World.commit, Write.run]
          | _ =>
              apply silent
              intro _ never
              cases never
      | read | randomUUID | getBalance | postTransaction | postBatch => exact silent trivial
  | cache | limits => exact absurd rfl noted

theorem follows_of_faultless {config : Config machine} {moves : List (Move machine)}
    (plain : ∀ index choice, Move.run index choice ∈ moves → choice.fault = .none) :
    config.Follows auditLog.guard moves := by
  apply Config.follows_of_prefixes
  intro earlier move later split
  cases move with
  | occur event => trivial
  | run index choice =>
      simp only [Config.Permits]
      split
      · next request _ _ => exact keeps_of_faultless (plain index choice (by simp [split])) request _
      · trivial

/-- A run without faults that has returned meets both conditions. -/
theorem uninterrupted_of_faultless {config : Config machine} {moves : List (Move machine)}
    (plain : ∀ index choice, Move.run index choice ∈ moves → choice.fault = .none)
    (returned : (config.run moves).Returned 0) :
    config.Follows auditLog.guard moves ∧ ¬ auditLog.Interrupted config moves :=
  ⟨follows_of_faultless plain, not_interrupted_of_returned returned⟩

end Faults

section Sample

def portal : State := ⟨Sample.world, .empty, .empty⟩

def suspendWinner : Mutation := .suspendMarket "group" "winner" "late news" "staff"

def disableGroup : Mutation := .patchTenant "group" { active := some false } "staff"

def answered (faults : List Fault) : List (Move machine) :=
  faults.map fun fault => .run 0 { Sample.plainly "" with fault }

def after (mutation : Mutation) (faults : List Fault) : State :=
  ((start ["all"] Text.asciiRuntime mutation portal).run (answered faults)).state

/-- The market is suspended, and the operation stops, or is answered with an error, or its
insert is refused; the tenant is disabled, and the cache does not answer. -/
theorem changed_unrecorded :
    (∀ run ∈ [(suspendWinner, [.none, .none]), (suspendWinner, [.none, .unacknowledged]),
        (suspendWinner, [.none, .none, .refused]), (disableGroup, [.none, .none, .refused])],
      (after run.1 run.2).rows ≠ portal.rows ∧ (after run.1 run.2).world.db.audit = []) ∧
    ¬ ∀ configured runtime (mutation : Mutation) portal moves,
      mutation.Accounted portal ((start configured runtime mutation portal).run moves).state := by
  have changed : ∀ run ∈ [(suspendWinner, [Fault.none, .none]),
      (suspendWinner, [.none, .unacknowledged]), (suspendWinner, [.none, .none, .refused]),
      (disableGroup, [.none, .none, .refused])],
      (after run.1 run.2).rows ≠ portal.rows ∧ (after run.1 run.2).world.db.audit = [] := by
    decide +kernel
  refine ⟨changed, fun always => ?_⟩
  obtain ⟨differs, log⟩ := changed (suspendWinner, [.none, .none]) (by simp)
  obtain ⟨made, notes, entry, member, _⟩ :=
    always ["all"] Text.asciiRuntime suspendWinner portal (answered [.none, .none]) differs
  have none : [] = portal.world.db.audit ++ made := log.symm.trans notes
  obtain ⟨_, rfl⟩ := List.append_eq_nil_iff.mp none.symm
  cases member

theorem suspended_recorded :
    ¬ auditLog.Interrupted (start ["all"] Text.asciiRuntime suspendWinner portal)
      (answered [.none, .none, .none]) ∧
    (after suspendWinner [.none, .none, .none]).rows ≠ portal.rows ∧
    Recorded portal (after suspendWinner [.none, .none, .none]) "staff" "trading.market_suspended"
      "Market" "winner" := by
  have plain : ∀ index choice, Move.run index choice ∈ answered [.none, .none, .none] →
      choice.fault = .none := by
    intro index choice member
    simp only [answered, List.map_cons, List.map_nil, List.mem_cons, List.not_mem_nil, or_false,
      or_self, Move.run.injEq] at member
    rw [member.2]
  have returned : ((start ["all"] Text.asciiRuntime suspendWinner portal).run
      (answered [.none, .none, .none])).Returned 0 := by decide +kernel
  obtain ⟨kept, whole⟩ := uninterrupted_of_faultless plain returned
  have differs : (after suspendWinner [.none, .none, .none]).rows ≠ portal.rows := by
    decide +kernel
  exact ⟨whole, differs, mutations_accounted ["all"] Text.asciiRuntime suspendWinner portal _
    kept whole differs⟩

end Sample

end SportsBetting.Portal
