import SportsBetting.Realtime.Isolation
import SportsBetting.Realtime.Replica

/-!
# The client in step with the database

Each service is followed call by call: between a write that is announced and its message
the client is one message behind, and at all other times it shows what the database has.
-/

namespace SportsBetting.Announced

open Async Ingestion Realtime Trading Numeral

section Calls

variable {client : Client} {start : Database} {feed : Feed}

/-- The client shows what the database has, or will when it has applied what is still to
be published. -/
def Shows (client : Client) (start : Database) (due : Option Payload) (feed : Feed) : Prop :=
  due.elim (client.replica start feed.sent) (client.update (client.replica start feed.sent)) =
    client.shown feed.db

abbrev Synced (client : Client) (start : Database) : Feed → Prop := Shows client start none

/-- Where a call fails the client still has what the database has. -/
def Due (client : Client) (start : Database) (due : Option Payload) {α : Type} :
    Except Failure α → Feed → Prop
  | .ok _, feed => Shows client start due feed
  | .error _, feed => Synced client start feed

/-- What a program leads to if the client can follow its calls. -/
abbrev Leading (client : Client) {α : Type} (post : Except Failure α → Feed → Prop)
    (service : GameService α) (feed : Feed) : Prop :=
  Leads answer client.Follows post service feed

/-- A call that publishes nothing and changes nothing that the client shows. -/
theorem Shows.silent {due : Option Payload} (shows : Shows client start due feed) {Reply : Type}
    {call : GameCall Reply} (quiet : call.payload = none)
    (same : client.shown (call.toQuery feed.db).2 = client.shown feed.db) :
    Shows client start due (answer call feed).2 := by
  unfold Shows answer
  rw [quiet, same]
  simpa [Shows] using shows

/-- A publication that the client hears, or that does not concern it. -/
theorem Shows.published {data : Payload} (shows : Shows client start (some data) feed)
    {call : GameCall Unit} (publishes : call.payload = some data)
    (same : (call.toQuery feed.db).2 = feed.db)
    (heard : client.update (client.replica start feed.sent) data =
        client.replica start feed.sent ∨ data.topic.room client.casinoGroupId ∈ client.rooms ∧
        client.casinoGroupId ∈ data.topic.groupIds feed.db) :
    Synced client start (answer call feed).2 := by
  unfold Synced Shows answer
  rw [publishes, same]
  have applied := Client.apply_broadcasts heard
  unfold Client.replica at applied ⊢
  simp only [Option.elim_none, Option.elim_some, List.foldl_append]
  rw [applied]
  exact shows

theorem leads_publishEventUpdate {data : EventUpdatePayload}
    (shows : Shows client start (some (.eventUpdate data)) feed) :
    Leading client (fun _ after => Synced client start after)
      (Program.call (.publishEventUpdate data)) feed := by
  refine Leads.call fun listed => shows.published rfl rfl ?_
  by_cases own : data.eventId = client.eventId
  · refine .inr ⟨?_, listed own⟩
    simp [Client.rooms, Payload.topic, Topic.room, own]
  · exact .inl (if_neg own)

theorem leads_publishSelectionOdds {data : SelectionOddsPayload}
    (shows : Shows client start (some (.selectionOdds data)) feed) :
    Leading client (fun _ after => Synced client start after)
      (Program.call (.publishSelectionOdds data)) feed := by
  refine Leads.call fun listed => shows.published rfl rfl ?_
  by_cases own : data.marketId = client.marketId
  · refine .inr ⟨?_, listed own⟩
    simp [Client.rooms, Payload.topic, Topic.room, own]
  · exact .inl (if_neg own)

/-- A write that publishes nothing is carried out, or rejected. -/
theorem answer_attempt {change : Database → Except Failure Database} {call : GameCall Unit}
    (quiet : call.payload = none) (same : call.toQuery = Query.attempt change) (feed : Feed) :
    (∃ after, change feed.db = .ok after ∧ answer call feed = (.ok (), { feed with db := after })) ∨
      ∃ failure, change feed.db = .error failure ∧ answer call feed = (.error failure, feed) := by
  unfold answer
  rw [quiet, same]
  cases changed : change feed.db with
  | ok after => exact .inl ⟨after, rfl, by simp [Query.attempt, changed]⟩
  | error failure => exact .inr ⟨failure, rfl, by simp [Query.attempt, changed]⟩

/-- A write that may be rejected, and is not announced. -/
theorem Synced.attempted {change : Database → Except Failure Database}
    (synced : Synced client start feed) {call : GameCall Unit} (quiet : call.payload = none)
    (same : call.toQuery = Query.attempt change)
    (kept : ∀ after, change feed.db = .ok after → client.shown after = client.shown feed.db) :
    Synced client start (answer call feed).2 := by
  rcases answer_attempt quiet same feed with ⟨after, changed, done⟩ | ⟨failure, _, done⟩
  · rw [done]
    exact Eq.trans synced (kept after changed).symm
  · rw [done]
    exact synced

theorem leads_upsertEvent (synced : Synced client start feed) (event : NormalizedEvent) :
    Leading client (Due client start (some (.eventUpdate (eventUpdate event))))
      (Program.call (.upsertEvent event)) feed := by
  refine Leads.call fun _ => ?_
  have same : (GameCall.upsertEvent event).toQuery =
    Query.attempt fun db => upsertEvent db event := rfl
  rcases answer_attempt rfl same feed with ⟨after, changed, done⟩ | ⟨failure, _, done⟩
  · rw [done]
    have shown : client.shown after =
      client.update (client.shown feed.db) (.eventUpdate (eventUpdate event)) :=
        Client.shown_upsertEvent changed
    exact (congrArg (client.update · _) synced).trans shown.symm
  · rw [done]
    exact synced

theorem leads_settleSelections (synced : Synced client start feed) (eventRef : String) :
    Leading client (fun _ after => Synced client start after)
      (Program.call (.settleSelections eventRef)) feed :=
  Leads.call fun settled => Shows.silent synced rfl (Client.shown_settleSelections settled)

theorem leads_setMarketRows (synced : Synced client start feed) (marketId : String)
    (marketStatus : MarketStatus) (selectionStatus : SelectionStatus) :
    Leading client (fun _ after => Synced client start after)
      (Program.call (.setMarketRows marketId marketStatus selectionStatus)) feed :=
  Leads.call fun have_ => Shows.silent synced rfl (Client.shown_setMarketRows have_)

theorem leads_suspendEventRows (synced : Synced client start feed) (eventId : String) :
    Leading client (fun _ after => Synced client start after)
      (Program.call (.suspendEventRows eventId)) feed :=
  Leads.call fun suspended =>
    Shows.silent synced rfl (Client.shown_suspendEventRows suspended.1 suspended.2)

theorem leads_endEvent (synced : Synced client start feed) (event : Event)
    (homeScore awayScore : ℤ) :
    Leading client (fun _ after => Synced client start after)
      (Program.call (.endEvent event homeScore awayScore)) feed :=
  Leads.call fun ended => synced.attempted rfl rfl fun _ done => Client.shown_endEvent ended done

theorem shown_transaction {db : Database} {Reply : Type}
    {change : Database → Except Failure (Reply × Database)}
    (kept : ∀ reply after, change db = .ok (reply, after) → client.shown after = client.shown db) :
    client.shown ((Query.transaction change) db).2 = client.shown db := by
  unfold Query.transaction
  cases changed : change db with
  | error failure => rfl
  | ok result => exact kept result.1 result.2 changed

theorem leads_removeFixtures (synced : Synced client start feed) (fixtures : List String) :
    Leading client (fun _ after => Synced client start after)
      (Program.call (.removeFixtures fixtures)) feed := by
  refine Leads.call fun spared => Shows.silent synced rfl (shown_transaction ?_)
  intro count after removed
  obtain ⟨_, rfl⟩ := deleteFixtures_ok (removeFixtures_ok removed)
  exact Client.shown_cascadeFixtures feed.db.ledger spared

theorem leads_deleteBetsAndFixtures (synced : Synced client start feed)
    (betIds fixtures : List String) :
    Leading client (fun _ after => Synced client start after)
      (Program.call (.deleteBetsAndFixtures betIds fixtures)) feed := by
  refine Leads.call fun spared => Shows.silent synced rfl (shown_transaction ?_)
  intro count after removed
  obtain ⟨_, rfl⟩ := deleteFixtures_ok (deleteBetsAndFixtures_ok removed)
  exact Client.shown_cascadeFixtures _ spared

/-- An announced upsert that went through can have its odds recorded. -/
theorem leads_upsertSelection (synced : Synced client start feed)
    {selection : NormalizedSelection} {price : ℚ}
    (parsed : newDecimal selection.price = .ok price) :
    Leading client (fun outcome after => Due client start
        (some (.selectionOdds (selectionOdds selection price))) outcome after ∧
        ∀ value, outcome = .ok value → ∃ column : Numeric 10 3, toColumn price = .ok column)
      (Program.call (.upsertSelection selection true)) feed := by
  refine Leads.call fun announceable => ?_
  have same : (GameCall.upsertSelection selection true).toQuery =
    Query.attempt fun db => upsertSelection db selection := rfl
  rcases answer_attempt rfl same feed with ⟨after, changed, done⟩ | ⟨failure, _, done⟩
  · rw [done]
    have shown := Client.shown_announced parsed announceable changed
    obtain ⟨_, ⟨number, column, read, stored, _⟩, _⟩ := upsertSelection_writes changed
    refine ⟨(congrArg (client.update · _) synced).trans shown.symm, fun _ _ => ⟨column, ?_⟩⟩
    rwa [Except.ok.inj (parsed.symm.trans read)]
  · rw [done]
    exact ⟨synced, fun _ never => nomatch never⟩

theorem leads_upsertSelection_stored (synced : Synced client start feed)
    (selection : NormalizedSelection) :
    Leading client (fun _ after => Synced client start after)
      (Program.call (.upsertSelection selection false)) feed :=
  Leads.call fun known => synced.attempted rfl rfl fun _ done => Client.shown_stored known done

end Calls

section Quiet

/-- The query leaves the events and the selections as they are. -/
def Quiet {Reply : Type} (query : Query Database Failure Reply) : Prop :=
  ∀ db, (query db).2.catalog.events = db.catalog.events ∧
    (query db).2.catalog.selections = db.catalog.selections

def GameCall.Quiet : {Reply : Type} → GameCall Reply → Prop
  | _, .other query => Announced.Quiet query
  | _, _ => False

theorem quiet_read {α : Type} (view : Database → α) :
    (read view).CallsOnly fun query => Quiet query :=
  (Program.callsOnly_call _).mpr fun _ => ⟨rfl, rfl⟩

theorem quiet_write {change : Database → Database}
    (kept : ∀ db, (change db).catalog.events = db.catalog.events ∧
      (change db).catalog.selections = db.catalog.selections) :
    (write change).CallsOnly fun query => Quiet query :=
  (Program.callsOnly_call _).mpr kept

theorem quiet_attempt {change : Database → Except Failure Database}
    (kept : ∀ db after, change db = .ok after → after.catalog.events = db.catalog.events ∧
      after.catalog.selections = db.catalog.selections) :
    (attempt change).CallsOnly fun query => Quiet query := by
  refine (Program.callsOnly_call _).mpr fun db => ?_
  unfold Query.attempt
  cases changed : change db with
  | error failure => exact ⟨rfl, rfl⟩
  | ok after => exact kept db after changed

theorem quiet_recordAudit (entry : AuditEntry) :
    (recordAudit entry).CallsOnly fun query => Quiet query :=
  (quiet_write fun _ => ⟨rfl, rfl⟩).handle fun _ => trivial

theorem quiet_upsertCatalog (snapshot : ProviderSnapshot) :
    (upsertCatalogFromSnapshot snapshot).CallsOnly fun query => Quiet query := by
  unfold upsertCatalogFromSnapshot
  refine Program.CallsOnly.bind (.forM (fun sport => quiet_attempt fun db after done => ?_) _)
    fun _ => ?_
  · have games := (unscheduled_upsertSport done).1
    exact ⟨games.events, games.selections⟩
  refine Program.CallsOnly.bind (quiet_read _) fun sportKeys => ?_
  refine Program.CallsOnly.bind (.forM (fun league => ?_) _) fun _ => .forM (fun team => ?_) _
  · split
    · exact quiet_write fun _ => ⟨rfl, rfl⟩
    · trivial
  · split
    · exact quiet_write fun _ => ⟨rfl, rfl⟩
    · trivial

theorem quiet_syncTenantLeagues (slug : String) (offered : List String) :
    (syncTenantLeagues slug offered).CallsOnly fun query => Quiet query := by
  unfold syncTenantLeagues
  refine Program.CallsOnly.bind (quiet_read _) fun group => ?_
  cases group with
  | none => trivial
  | some group =>
      refine Program.CallsOnly.bind (quiet_read _) fun leagues => .forM (fun league => ?_) _
      refine Program.CallsOnly.bind (quiet_read _) fun existing => ?_
      refine Program.CallsOnly.bind (quiet_write fun _ => ⟨rfl, rfl⟩) fun _ => ?_
      split
      · trivial
      · exact quiet_recordAudit _

theorem quiet_upsertFixtures (runtime : Text.Runtime) (snapshot : ProviderSnapshot) :
    (upsertFixtures runtime snapshot).CallsOnly fun query => Quiet query := by
  unfold upsertFixtures
  refine Program.CallsOnly.bind (quiet_read _) fun leagueKeys => ?_
  refine Program.CallsOnly.bind (quiet_read _) fun teamKeys => .foldlM (fun count fixture => ?_) _ _
  split
  · refine Program.CallsOnly.bind (quiet_attempt fun db after done => ?_) fun _ => trivial
    have games := (fixturesOnly_upsertFixture done).1.unpriced
    exact ⟨games.events, games.selections⟩
  · trivial

theorem quiet_ingestMarket (eventRefs : List String) (count : ℕ) (market : NormalizedMarket) :
    (ingestMarket eventRefs count market).CallsOnly fun query => Quiet query := by
  unfold ingestMarket
  split
  · refine Program.CallsOnly.bind (quiet_attempt fun db after done => ?_) fun _ => trivial
    obtain ⟨line, _, rfl⟩ := upsertMarket_ok done
    exact ⟨rfl, rfl⟩
  · trivial

theorem quiet_assertTenantEvent (casinoGroupId eventId : String) :
    (assertTenantEvent casinoGroupId eventId).CallsOnly fun query => Quiet query := by
  refine Program.CallsOnly.bind (quiet_read _) fun event => ?_
  cases event <;> trivial

theorem quiet_assertTenantMarket (casinoGroupId marketId : String) :
    (assertTenantMarket casinoGroupId marketId).CallsOnly fun query => Quiet query := by
  refine Program.CallsOnly.bind (quiet_read _) fun market => ?_
  cases market <;> trivial

theorem quiet_findBetIds (selectionIds : List String) :
    (findBetIds selectionIds).CallsOnly fun query => Quiet query := by
  unfold findBetIds
  split
  · trivial
  · exact quiet_read _

end Quiet

section Services

variable {client : Client} {start : Database} {feed : Feed} {α β : Type}

/-- Whatever its outcome, the client has what the database has. -/
abbrev InStep (client : Client) (start : Database) (service : GameService α) (feed : Feed) : Prop :=
  Leading client (fun _ after => Synced client start after) service feed

theorem InStep.bind {service : GameService α} {next : α → GameService β}
    (first : InStep client start service feed)
    (rest : ∀ value after, Synced client start after → InStep client start (next value) after) :
    InStep client start (service >>= next) feed :=
  Contract.Safe.bind first rest fun _ _ held => held

theorem inStep_foldlM {ι : Type} {body : β → ι → GameService β}
    (each : ∀ value item after, Synced client start after →
      InStep client start (body value item) after)
    (items : List ι) (value : β) (synced : Synced client start feed) :
    InStep client start (items.foldlM body value) feed := by
  induction items generalizing value feed with
  | nil => exact synced
  | cons item items ih =>
      exact InStep.bind (each value item feed synced) fun value after synced => ih value synced

theorem leads_quietly {due : Option Payload} (shows : Shows client start due feed)
    {service : Service α} (only : service.CallsOnly fun query => Quiet query) :
    Leading client (fun _ after => Shows client start due after) (quietly service) feed := by
  have sub : ∀ {Reply : Type} (query : Query Database Failure Reply),
    Quiet query → (GameCall.other query).Quiet := fun _ allowed => allowed
  have quiet : (quietly service).CallsOnly fun call => call.Quiet :=
    only.mapCalls sub
  refine Leads.of_callsOnly (fun call state allowed held => ?_) quiet shows
  cases call with
  | other query =>
      obtain ⟨events, selections⟩ := allowed state.db
      exact held.silent rfl (Client.shown_congr events selections)
  | _ => exact allowed.elim

theorem inStep_closeIfEnded (synced : Synced client start feed) (event : NormalizedEvent) :
    InStep client start (closeIfEnded event) feed := by
  unfold closeIfEnded closeMarketsForEndedEvent
  split
  · refine InStep.bind (leads_quietly synced (quiet_write fun _ => ⟨rfl, rfl⟩)) ?_
    exact fun _ _ synced => leads_settleSelections synced _
  · exact synced

/-- An event is announced as it is written. -/
theorem inStep_ingestEvent (fixtureRefs : List String) (count : ℕ) (event : NormalizedEvent)
    (synced : Synced client start feed) :
    InStep client start (ingestEvent fixtureRefs count event) feed := by
  unfold ingestEvent
  split
  · refine Contract.Safe.bind (leads_upsertEvent synced event) ?_ fun _ _ failed => failed
    intro _ after due
    refine InStep.bind (leads_publishEventUpdate due) fun _ _ synced => ?_
    exact InStep.bind (inStep_closeIfEnded synced event) fun _ _ synced => synced
  · exact synced

/-- A selection is announced as it is written, unless its price is the one before. -/
theorem inStep_ingestSelection (marketRefs : List String) (priceByRef : String → Option ℚ)
    (counts : ℕ × ℕ) (selection : NormalizedSelection) (synced : Synced client start feed) :
    InStep client start (ingestSelection marketRefs priceByRef counts selection) feed := by
  unfold ingestSelection
  split
  · cases parsed : newDecimal selection.price with
    | error failure => exact synced
    | ok price =>
        dsimp only
        by_cases same : priceByRef selection.providerRef = some price
        · rw [if_pos same, decide_eq_false (not_not_intro same)]
          exact InStep.bind (leads_upsertSelection_stored synced selection) fun _ _ synced => synced
        · rw [if_neg same, decide_eq_true same]
          refine Contract.Safe.bind (leads_upsertSelection synced parsed) ?_
            fun _ _ failed => failed.1
          rintro _ after ⟨due, fits⟩
          obtain ⟨column, stored⟩ := fits () rfl
          have recorded : Leading client (Due client start
              (some (.selectionOdds (selectionOdds selection price))))
              (quietly (attempt fun db => createOddsSnapshot db selection.providerRef price))
              after := by
            refine Leads.call fun _ => ?_
            have made : ∀ db, createOddsSnapshot db selection.providerRef price = .ok
                { db with catalog.oddsSnapshots :=
                    db.catalog.oddsSnapshots ++ [⟨selection.providerRef, column⟩] } := by
              intro db
              simp [createOddsSnapshot, stored]
            have call : (GameCall.other (Query.attempt fun db =>
                createOddsSnapshot db selection.providerRef price)).toQuery =
              Query.attempt fun db => createOddsSnapshot db selection.providerRef price := rfl
            rcases answer_attempt rfl call after with ⟨later, changed, done⟩ | ⟨_, failed, _⟩
            · rw [done]
              rw [made, Except.ok.injEq] at changed
              subst changed
              exact due
            · rw [made] at failed
              cases failed
          refine Contract.Safe.bind recorded ?_ fun _ _ failed => failed
          intro _ after due
          exact InStep.bind (leads_publishSelectionOdds due) fun _ _ synced => synced
  · exact synced

theorem inStep_ingestLiveData (snapshot : ProviderSnapshot) (synced : Synced client start feed) :
    InStep client start (ingestLiveData snapshot) feed := by
  unfold ingestLiveData
  refine InStep.bind (leads_quietly synced (quiet_read _)) fun fixtureRefs _ synced => ?_
  refine InStep.bind (inStep_foldlM (fun count event _ synced =>
    inStep_ingestEvent fixtureRefs count event synced) _ _ synced) fun _ _ synced => ?_
  refine InStep.bind (leads_quietly synced (quiet_read _)) fun eventRefs _ synced => ?_
  refine InStep.bind (inStep_foldlM (fun count market _ synced =>
    leads_quietly synced (quiet_ingestMarket eventRefs count market)) _ _ synced)
    fun _ _ synced => ?_
  refine InStep.bind (leads_quietly synced (quiet_read _)) fun marketRefs _ synced => ?_
  refine InStep.bind (leads_quietly synced (quiet_read _)) fun prices _ synced => ?_
  refine InStep.bind (inStep_foldlM (fun counts selection _ synced =>
    inStep_ingestSelection marketRefs _ counts selection synced) _ _ synced) fun _ _ synced => ?_
  exact synced

theorem inStep_deleteStaleFixtures (stale : Fixture → Bool) (synced : Synced client start feed) :
    InStep client start (deleteStaleFixtures stale) feed := by
  refine InStep.bind ?_ fun _ _ synced => synced
  unfold deleteFixturesAndBetHistory
  refine InStep.bind (leads_quietly synced (quiet_read _)) fun _ _ synced => ?_
  refine InStep.bind (leads_quietly synced (quiet_read _)) fun fixtures _ synced => ?_
  split
  · exact synced
  · refine InStep.bind (leads_quietly synced (quiet_read _)) fun selectionIds _ synced => ?_
    refine InStep.bind (leads_quietly synced (quiet_findBetIds selectionIds)) fun betIds _ synced => ?_
    unfold deleteFixturesWithBets
    split
    · exact InStep.bind (leads_removeFixtures synced fixtures) fun _ _ synced => synced
    · exact InStep.bind (leads_deleteBetsAndFixtures synced betIds fixtures) fun _ _ synced => synced

variable (runtime : Text.Runtime) (isOddsApi : Bool)

theorem inStep_upsertFixturesFromSnapshot (snapshot : ProviderSnapshot) (purgeStale : Bool)
    (synced : Synced client start feed) :
    InStep client start (upsertFixturesFromSnapshot runtime isOddsApi snapshot purgeStale) feed := by
  unfold upsertFixturesFromSnapshot
  refine InStep.bind (leads_quietly synced (quiet_upsertFixtures runtime snapshot))
    fun count _ synced => ?_
  split
  · exact synced
  · dsimp only
    split
    · exact synced
    · exact InStep.bind (inStep_deleteStaleFixtures _ synced) fun _ _ synced => synced

theorem inStep_ingestFixtures (fetched : Except Failure ProviderSnapshot)
    (synced : Synced client start feed) :
    InStep client start (ingestFixtures runtime isOddsApi fetched) feed := by
  cases fetched with
  | error failure => exact synced
  | ok snapshot =>
      refine InStep.bind (leads_quietly synced (quiet_upsertCatalog snapshot)) fun _ _ synced => ?_
      refine InStep.bind (leads_quietly synced (quiet_syncTenantLeagues _ _)) fun _ _ synced => ?_
      refine InStep.bind (leads_quietly synced (quiet_syncTenantLeagues _ _)) fun _ _ synced => ?_
      refine InStep.bind (inStep_upsertFixturesFromSnapshot runtime isOddsApi snapshot true synced)
        fun _ _ synced => ?_
      exact InStep.bind (inStep_ingestLiveData snapshot synced) fun _ _ synced => synced

theorem inStep_ingestLiveTick (now prestartMinutes : ℤ)
    (fetchLiveSnapshot : Option (List String → Except Failure ProviderSnapshot))
    (synced : Synced client start feed) : InStep client start
      (ingestLiveTick runtime isOddsApi now prestartMinutes fetchLiveSnapshot) feed := by
  unfold ingestLiveTick
  refine InStep.bind (leads_quietly synced (quiet_read _)) fun sportKeys _ synced => ?_
  split
  · exact synced
  · cases fetchLiveSnapshot with
    | none => exact synced
    | some fetch =>
        dsimp only
        cases fetch sportKeys with
        | error failure => exact synced
        | ok snapshot =>
            refine InStep.bind (leads_quietly synced (quiet_upsertCatalog snapshot))
              fun _ _ synced => ?_
            refine InStep.bind
              (inStep_upsertFixturesFromSnapshot runtime isOddsApi snapshot false synced)
              fun _ _ synced => ?_
            exact InStep.bind (inStep_ingestLiveData snapshot synced) fun _ _ synced => synced

theorem inStep_finalizeEventResult (providerRef : String) (homeScore awayScore : ℤ)
    (synced : Synced client start feed) :
    InStep client start (finalizeEventResult providerRef homeScore awayScore) feed := by
  refine InStep.bind (leads_quietly synced (quiet_read _)) fun event _ synced => ?_
  cases event with
  | none => exact synced
  | some event =>
      refine InStep.bind (leads_endEvent synced event homeScore awayScore) fun _ _ synced => ?_
      refine InStep.bind ?_ fun _ _ synced => ?_
      · refine InStep.bind (leads_quietly synced (quiet_write fun _ => ⟨rfl, rfl⟩)) ?_
        exact fun _ _ synced => leads_settleSelections synced _
      · exact InStep.bind (leads_quietly synced (quiet_write fun _ => ⟨rfl, rfl⟩))
          fun _ _ synced => synced

theorem inStep_suspendEvent (casinoGroupId eventId reason staffUserId : String)
    (synced : Synced client start feed) :
    InStep client start (suspendEvent casinoGroupId eventId reason staffUserId) feed := by
  refine InStep.bind (leads_quietly synced (quiet_assertTenantEvent _ _)) fun event _ synced => ?_
  split
  · exact synced
  · exact InStep.bind (leads_suspendEventRows synced eventId) fun _ _ synced =>
      leads_quietly synced (quiet_recordAudit _)

theorem inStep_suspendMarket (casinoGroupId marketId reason staffUserId : String)
    (synced : Synced client start feed) :
    InStep client start (suspendMarket casinoGroupId marketId reason staffUserId) feed := by
  refine InStep.bind (leads_quietly synced (quiet_assertTenantMarket _ _)) fun found _ synced => ?_
  obtain ⟨market, event⟩ := found
  dsimp only
  split
  · exact synced
  · exact InStep.bind (leads_setMarketRows synced marketId .suspended .suspended)
      fun _ _ synced => leads_quietly synced (quiet_recordAudit _)

theorem inStep_resumeMarket (casinoGroupId marketId staffUserId : String)
    (synced : Synced client start feed) :
    InStep client start (resumeMarket casinoGroupId marketId staffUserId) feed := by
  refine InStep.bind (leads_quietly synced (quiet_assertTenantMarket _ _)) fun found _ synced => ?_
  obtain ⟨market, event⟩ := found
  dsimp only
  split
  · exact synced
  · exact InStep.bind (leads_setMarketRows synced marketId .open .open)
      fun _ _ synced => leads_quietly synced (quiet_recordAudit _)

theorem inStep_program (op : GameOp) (synced : Synced client start feed) :
    InStep client start (op.program runtime isOddsApi) feed := by
  cases op with
  | ingest run =>
      cases run with
      | catalog fetched =>
          exact InStep.bind (inStep_ingestFixtures runtime isOddsApi fetched synced)
            fun _ _ synced => synced
      | live now prestartMinutes fetchLiveSnapshot =>
          exact InStep.bind (inStep_ingestLiveTick runtime isOddsApi now prestartMinutes
            fetchLiveSnapshot synced) fun _ _ synced => synced
      | results snapshot =>
          exact InStep.bind (inStep_ingestLiveData snapshot synced) fun _ _ synced => synced
  | finalizeEventResult providerRef homeScore awayScore =>
      exact InStep.bind (inStep_finalizeEventResult providerRef homeScore awayScore synced)
        fun _ _ synced => synced
  | suspendEvent casinoGroupId eventId reason staffUserId =>
      exact inStep_suspendEvent casinoGroupId eventId reason staffUserId synced
  | suspendMarket casinoGroupId marketId reason staffUserId =>
      exact inStep_suspendMarket casinoGroupId marketId reason staffUserId synced
  | resumeMarket casinoGroupId marketId staffUserId =>
      exact inStep_resumeMarket casinoGroupId marketId staffUserId synced

end Services

section Operations

variable (runtime : Text.Runtime) (isOddsApi : Bool) {client : Client} {start : Database}

theorem synced_runOps {ops : List GameOp} {feed : Feed} (synced : Synced client start feed)
    (followed : Followed runtime isOddsApi client ops feed) :
    Synced client start (runOps runtime isOddsApi ops feed) := by
  induction ops generalizing feed with
  | nil => exact synced
  | cons op ops ih =>
      exact ih ((inStep_program runtime isOddsApi op synced).result followed.1) followed.2

theorem followed_append {first second : List GameOp} {feed : Feed}
    (followed : Followed runtime isOddsApi client (first ++ second) feed) :
    Followed runtime isOddsApi client first feed := by
  induction first generalizing feed with
  | nil => trivial
  | cons op first ih => exact ⟨followed.1, ih followed.2⟩

/-- A client that hears of what it needs to hear of has, after each operation, the data of
the database that the services leave. -/
theorem replica_eq_shown {ops : List GameOp}
    (followed : Followed runtime isOddsApi client ops ⟨start, []⟩) (earlier later : List GameOp)
    (split : ops = earlier ++ later) :
    client.replica start (runOps runtime isOddsApi earlier ⟨start, []⟩).sent =
      client.shown (runServices runtime isOddsApi earlier start) := by
  have followed : Followed runtime isOddsApi client earlier ⟨start, []⟩ :=
    followed_append runtime isOddsApi (split ▸ followed)
  have synced : Synced client start (runOps runtime isOddsApi earlier ⟨start, []⟩) :=
    synced_runOps runtime isOddsApi rfl followed
  unfold Synced Shows at synced
  rw [runOps_db] at synced
  exact synced

/-- The live game with a price. -/
def pricedGame : Database :=
  { liveGame with
    catalog.selections := ⟨[⟨"home", "winner", "Home", .open, .ofUnits 1900⟩], by decide⟩ }

def follower : Client := ⟨"acme", "game", "winner"⟩

/-- The away side scores, and the price of the home side goes up. -/
def awayScores : ProviderSnapshot where
  sports := []
  leagues := []
  teams := []
  fixtures := []
  events := [⟨"game", "fixture", .live, some 1, some 4, none, none⟩]
  markets := []
  selections := [⟨"home", "winner", "Home", .open, "2.15"⟩]

theorem follower_has_new_price :
    (follower.replica pricedGame (runOps Text.asciiRuntime true [.ingest (.results awayScores)]
      ⟨pricedGame, []⟩).sent).selections "home" = some (2.15, .open) := by
  have followed : Followed Text.asciiRuntime true follower [.ingest (.results awayScores)]
    ⟨pricedGame, []⟩ := by decide +kernel
  rw [replica_eq_shown Text.asciiRuntime true followed _ [] rfl]
  decide +kernel

/-- A trader suspends the market, and the client still shows its selection as open. -/
theorem suspension_unheard :
    "acme" ∈ groupIdsForMarket pricedGame "winner" ∧
      (follower.replica pricedGame (runOps Text.asciiRuntime true
        [.suspendMarket "acme" "winner" "late news" "trader"] ⟨pricedGame, []⟩).sent).selections
          "home" = some (1.9, .open) ∧
      (follower.shown (runServices Text.asciiRuntime true
        [.suspendMarket "acme" "winner" "late news" "trader"] pricedGame)).selections "home" =
          some (1.9, .suspended) := by
  decide +kernel

end Operations

end SportsBetting.Announced
