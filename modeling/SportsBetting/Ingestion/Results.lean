import SportsBetting.Async.Solo
import SportsBetting.Data.Grouping
import SportsBetting.Data.Slices
import SportsBetting.Feed.Lossless
import SportsBetting.Feed.Provider
import SportsBetting.Ingestion.Service

/-!
# The results of events with open bets

The scores are asked for by sport, a few events at a time. Where a request fails or is
answered by nothing, the run goes on with the next one.
-/

namespace SportsBetting.ResultsIngestService

open Async Ingestion OddsApi Slices Text

def EVENT_ID_CHUNK_SIZE : ℕ := 20

inductive FixtureProvider | mock | oddsApi
  deriving DecidableEq

structure EnvConfig where
  FIXTURE_PROVIDER : FixtureProvider
  SETTLEMENT_STALE_HOURS : ℕ

structure ResultsIngestSummary where
  skipped : Bool
  sportKeys : List String
  eventIdsRequested : ℕ
  scoresReturned : ℕ
  eventsUpdated : ℕ
  betsSettled : ℕ
  betsFlaggedStale : ℕ
  deriving DecidableEq

/-- The scores come with the time of their arrival. -/
inductive ScoresCall : Type → Type
  | fetchScoresForEventIds (sportKey : String) (eventIds : List String) :
      ScoresCall (List OddsApiEventScore × Time)

abbrev ResultsService := Program (Joint ScoresCall (Query Database Failure)) Failure

def fetchScoresForEventIds (sportKey : String) (eventIds : List String) :
    ResultsService (List OddsApiEventScore × Time) :=
  Program.call (.own (.fetchScoresForEventIds sportKey eventIds))

/-- A failed request is only logged. -/
def fetchedScores (sportKey : String) (eventIds : List String) :
    ResultsService (Option (List OddsApiEventScore × Time)) :=
  (do let reply ← fetchScoresForEventIds sportKey eventIds
      pure (some reply)).handle fun _ => pure none

def prisma {α : Type} (service : Service α) : ResultsService α := service.mapCalls .other

section OpenBets

structure OpenBetEvent where
  providerRef : String
  sportKey : String
  kickoff : Time
  deriving DecidableEq

/-- The distinct events of the legs of accepted bets. -/
def openBetEventIds (db : Database) : List String :=
  ((db.ledger.bets.rows.filter fun bet => bet.status = .accepted).flatMap fun bet =>
    bet.legs.map BetLeg.eventId).eraseDups

def findEvents (eventIds : List String) (db : Database) : List OpenBetEvent :=
  (db.catalog.events.rows.filter fun event => event.providerRef ∈ eventIds).filterMap fun event =>
    (db.catalog.fixtures.get? event.fixture).map fun fixture =>
      ⟨event.providerRef, fixture.league, fixture.startsAt⟩

def loadOpenBetEvents : Service (List OpenBetEvent) := do
  let eventIds ← read openBetEventIds
  if eventIds.isEmpty then pure []
  else read (findEvents eventIds)

def groupBySport (rows : List OpenBetEvent) :
    Table (String × List OpenBetEvent) (Prod.fst : String × List OpenBetEvent → String) :=
  (Grouping.listing OpenBetEvent.sportKey).gather rows

end OpenBets

section StaleBets

def staleNote (staleHours : ℕ) : String :=
  "Awaiting results (" ++ toString staleHours ++ "h+ since kickoff). " ++
    "Use npm run result:manual if The Odds API no longer returns this event."

def updateSettlementNote (db : Database) (betId : String) (note : Option String) :
    Except Failure Database :=
  if (db.ledger.bets.get? betId).isNone then .error .database
  else .ok { db with
    ledger := db.ledger.modifyBets (fun bet => bet.id = betId)
      fun bet => { bet with settlementNote := note } }

/-- One of the events has started before the cutoff and has not ended. -/
def overdue (cutoff : Time) (eventIds : List String) (db : Database) : Bool :=
  db.catalog.events.rows.any fun event =>
    event.providerRef ∈ eventIds && event.status ≠ .ended &&
      (db.catalog.fixtures.get? event.fixture).any fun fixture => fixture.startsAt < cutoff

def flagStaleBet (staleHours : ℕ) (cutoff : Time) (flagged : ℕ) (bet : Bet) : Service ℕ := do
  let late ← read (overdue cutoff (bet.legs.map BetLeg.eventId).eraseDups)
  if late then
    if bet.settlementNote = some (staleNote staleHours) then pure flagged
    else do
      attempt fun db => updateSettlementNote db bet.id (some (staleNote staleHours))
      pure (flagged + 1)
  else if bet.settlementNote.getD "" = "" then pure flagged
  else do
    attempt fun db => updateSettlementNote db bet.id none
    pure flagged

/-- How many bets are flagged anew. -/
def flagStaleBets (staleHours : ℕ) (now : Time) : Service ℕ := do
  let cutoff := now - staleHours * 60 * 60 * 1000
  let bets ← read fun db => db.ledger.bets.rows.filter fun bet => bet.status = .accepted
  bets.foldlM (flagStaleBet staleHours cutoff) 0

end StaleBets

section Runs

variable (runtime : Runtime) (toUpperCase : Char → String)

def snapshotFromScores (now : Time) (sportKey : String) (scores : List OddsApiEventScore) :
    ProviderSnapshot :=
  mapOddsApiToSnapshot runtime now {
    sportKeys := [sportKey]
    apiSports := [(syntheticOddsApiSport toUpperCase sportKey).toOddsApiSport]
    oddsBySport := fun _ => []
    scoresBySport := fun key => if key = sportKey then scores else []
    marketKeys := [] }

/-- What a run has counted so far. -/
structure Progress where
  scoresReturned : ℕ
  eventsUpdated : ℕ

def applyScores (sportKey : String) (progress : Progress) (scores : List OddsApiEventScore)
    (now : Time) : ResultsService Progress :=
  let scoresReturned := progress.scoresReturned + scores.length
  if scores.isEmpty then pure { progress with scoresReturned }
  else do
    let snapshot := snapshotFromScores runtime toUpperCase now sportKey scores
    let applied ← prisma (applyResultsSnapshot snapshot)
    pure ⟨scoresReturned, progress.eventsUpdated + applied.events⟩

def ingestChunk (sportKey : String) (progress : Progress) (chunk : List String) :
    ResultsService Progress := do
  let fetched ← fetchedScores sportKey chunk
  match fetched with
  | none => pure progress
  | some (scores, now) => applyScores runtime toUpperCase sportKey progress scores now

def chunks (rows : List OpenBetEvent) : List (List String) :=
  slices EVENT_ID_CHUNK_SIZE (rows.map OpenBetEvent.providerRef).eraseDups

def ingestSport (progress : Progress) (group : String × List OpenBetEvent) :
    ResultsService Progress :=
  (chunks group.2).foldlM (ingestChunk runtime toUpperCase group.1) progress

/-- One run, which comes to the stale bets at the given time. -/
def ingestOpenBetResults (config : EnvConfig) (now : Time) :
    ResultsService ResultsIngestSummary :=
  if config.FIXTURE_PROVIDER ≠ .oddsApi then pure ⟨true, [], 0, 0, 0, 0, 0⟩
  else do
    let liabilities ← prisma loadOpenBetEvents
    if liabilities.isEmpty then pure ⟨false, [], 0, 0, 0, 0, 0⟩
    else do
      let groups := (groupBySport liabilities).rows
      let progress ← groups.foldlM (ingestSport runtime toUpperCase) ⟨0, 0⟩
      let betsFlaggedStale ← prisma (flagStaleBets config.SETTLEMENT_STALE_HOURS now)
      pure ⟨false, groups.map Prod.fst, liabilities.length, progress.scoresReturned,
        progress.eventsUpdated, 0, betsFlaggedStale⟩

end Runs

section Requests

/-- One call of `fetchScoresForEventIds`. -/
structure ScoresRequest where
  sportKey : String
  eventIds : List String
  deriving DecidableEq

/-- The league and the reference of each event that is asked for. -/
def ScoresRequest.pairs (request : ScoresRequest) : List (String × String) :=
  request.eventIds.map (Prod.mk request.sportKey)

def openBetEvents (db : Database) : List OpenBetEvent := findEvents (openBetEventIds db) db

def requestsOf (group : String × List OpenBetEvent) : List ScoresRequest :=
  (chunks group.2).map (ScoresRequest.mk group.1)

/-- The requests of a run, whatever they are answered by. -/
def scoreRequests (db : Database) : List ScoresRequest :=
  (groupBySport (openBetEvents db)).rows.flatMap requestsOf

/-- An event of the league has a leg of an accepted bet. -/
def HasOpenBet (db : Database) (leagueKey providerRef : String) : Prop :=
  ∃ event ∈ db.catalog.events, event.providerRef = providerRef ∧
    (∃ fixture ∈ db.catalog.fixtures,
      fixture.providerRef = event.fixture ∧ fixture.league = leagueKey) ∧
    ∃ bet ∈ db.ledger.bets, bet.status = .accepted ∧ ∃ leg ∈ bet.legs, leg.eventId = providerRef

/-- The requests ask for every event with an open bet once, by its league, and for no other. -/
structure Refreshes (db : Database) (requests : List ScoresRequest) : Prop where
  exact : ∀ leagueKey providerRef,
    (leagueKey, providerRef) ∈ requests.flatMap ScoresRequest.pairs ↔
      HasOpenBet db leagueKey providerRef
  once : (requests.flatMap ScoresRequest.pairs).Nodup
  sized : ∀ request ∈ requests,
    1 ≤ request.eventIds.length ∧ request.eventIds.length ≤ EVENT_ID_CHUNK_SIZE

variable {db : Database} {group : String × List OpenBetEvent}

theorem mem_openBetEventIds {eventId : String} : eventId ∈ openBetEventIds db ↔
    ∃ bet ∈ db.ledger.bets, bet.status = .accepted ∧ ∃ leg ∈ bet.legs, leg.eventId = eventId := by
  simp [openBetEventIds, List.mem_eraseDups, Table.mem_rows, and_assoc]

theorem eval_loadOpenBetEvents (db : Database) :
    loadOpenBetEvents.eval db = (.ok (openBetEvents db), db) := by
  refine (Program.eval_read_bind _ _ db).trans ?_
  split
  · next none_open =>
      rw [openBetEvents, List.isEmpty_iff.mp none_open]
      simp [findEvents]
  · rfl

theorem mem_openBetEvents {leagueKey providerRef : String} :
    (∃ row ∈ openBetEvents db, row.sportKey = leagueKey ∧ row.providerRef = providerRef) ↔
      HasOpenBet db leagueKey providerRef := by
  constructor
  · rintro ⟨row, listed, rfl, rfl⟩
    obtain ⟨event, chosen, joined⟩ := List.mem_filterMap.mp listed
    obtain ⟨stored, open_⟩ := List.mem_filter.mp chosen
    obtain ⟨fixture, found, rfl⟩ := Option.map_eq_some_iff.mp joined
    obtain ⟨present, same⟩ := Table.get?_eq_some_iff.mp found
    exact ⟨event, stored, rfl, ⟨fixture, present, same, rfl⟩,
      mem_openBetEventIds.mp (of_decide_eq_true open_)⟩
  · rintro ⟨event, stored, rfl, ⟨fixture, present, same, rfl⟩, open_⟩
    refine ⟨⟨event.providerRef, fixture.league, fixture.startsAt⟩, ?_, rfl, rfl⟩
    refine List.mem_filterMap.mpr ⟨event, List.mem_filter.mpr ⟨stored, ?_⟩, ?_⟩
    · exact decide_eq_true (mem_openBetEventIds.mpr open_)
    · rw [Table.get?_eq_some_iff.mpr ⟨present, same⟩]
      rfl

/-- The chunks of a group are cut from its distinct references. -/
theorem pairs_requestsOf (group : String × List OpenBetEvent) :
    (requestsOf group).flatMap ScoresRequest.pairs =
      (group.2.map OpenBetEvent.providerRef).eraseDups.map (Prod.mk group.1) := by
  have whole : (chunks group.2).flatten = (group.2.map OpenBetEvent.providerRef).eraseDups :=
    flatten_slices (by decide) _
  rw [requestsOf, List.flatMap_map, ← whole, List.map_flatten]
  rfl

theorem mem_pairs_requestsOf {leagueKey providerRef : String} :
    (leagueKey, providerRef) ∈ (requestsOf group).flatMap ScoresRequest.pairs ↔
      group.1 = leagueKey ∧ ∃ row ∈ group.2, row.providerRef = providerRef := by
  rw [pairs_requestsOf]
  simp [List.mem_eraseDups, and_comm]

theorem pairs_scoreRequests (db : Database) :
    (scoreRequests db).flatMap ScoresRequest.pairs =
      (groupBySport (openBetEvents db)).rows.flatMap fun group =>
        (requestsOf group).flatMap ScoresRequest.pairs :=
  List.flatMap_assoc

theorem mem_pairs_scoreRequests {leagueKey providerRef : String} :
    (leagueKey, providerRef) ∈ (scoreRequests db).flatMap ScoresRequest.pairs ↔
      HasOpenBet db leagueKey providerRef := by
  rw [pairs_scoreRequests, List.mem_flatMap, ← mem_openBetEvents]
  simp only [mem_pairs_requestsOf]
  constructor
  · rintro ⟨group, member, named, row, listed, same⟩
    obtain ⟨kept, own⟩ := Grouping.mem_listing.mp ⟨group, member, named, listed⟩
    exact ⟨row, kept, own, same⟩
  · rintro ⟨row, listed, own, same⟩
    obtain ⟨group, member, named, kept⟩ := Grouping.mem_listing.mpr ⟨listed, own⟩
    exact ⟨group, member, named, row, kept, same⟩

theorem nodup_pairs_scoreRequests (db : Database) :
    ((scoreRequests db).flatMap ScoresRequest.pairs).Nodup := by
  rw [pairs_scoreRequests, List.nodup_flatMap]
  constructor
  · intro group _
    rw [pairs_requestsOf]
    exact (nodup_eraseDups _).map (Prod.mk_right_injective group.1)
  · have keys := List.pairwise_map.mp (groupBySport (openBetEvents db)).unique
    refine keys.imp fun {first second} differ pair inFirst inSecond => differ ?_
    exact (mem_pairs_requestsOf.mp inFirst).1.trans (mem_pairs_requestsOf.mp inSecond).1.symm

/-- **The requests of a run** are for the events with open bets. -/
theorem refreshes_scoreRequests (db : Database) : Refreshes db (scoreRequests db) where
  exact _ _ := mem_pairs_scoreRequests
  once := nodup_pairs_scoreRequests db
  sized request member := by
    obtain ⟨group, _, listed⟩ := List.mem_flatMap.mp member
    obtain ⟨chunk, among, rfl⟩ := List.mem_map.mp listed
    exact ⟨List.length_pos_iff.mpr (slice_ne_nil (by decide) among), length_slice_le among⟩

end Requests

section Passing

variable {runtime : Runtime} {toUpperCase : Char → String}

variable (runtime toUpperCase) in
/-- Scores alone list no selections. -/
theorem selections_snapshotFromScores (now : Time) (sportKey : String)
    (scores : List OddsApiEventScore) :
    (snapshotFromScores runtime toUpperCase now sportKey scores).selections = [] := by
  rw [snapshotFromScores, selections_mapOddsApiToSnapshot, listedOutcomes]
  simp only [List.flatMap_nil, List.flatMap_cons, List.append_nil]
  rfl

theorem passes_ingestEvent (fixtureRefs : List String) (count : ℕ) (event : NormalizedEvent) :
    (ingestEvent fixtureRefs count event).Passes := by
  unfold ingestEvent
  split
  · refine (Program.Passes.call _).bind fun _ => (Program.Passes.call _).bind fun _ => ?_
    refine Program.Passes.bind ?_ fun _ => Program.Passes.pure _
    unfold closeIfEnded
    split
    · exact (Program.Passes.call _).bind fun _ => Program.Passes.call _
    · exact Program.Passes.pure _
  · exact Program.Passes.pure _

theorem passes_ingestMarket (eventRefs : List String) (count : ℕ) (market : NormalizedMarket) :
    (ingestMarket eventRefs count market).Passes := by
  unfold ingestMarket
  split
  · exact (Program.Passes.call _).bind fun _ => Program.Passes.pure _
  · exact Program.Passes.pure _

/-- Only the price of a selection can be rejected by the service itself. -/
theorem passes_applyResultsSnapshot {snapshot : ProviderSnapshot} (unpriced : snapshot.selections = []) :
    (applyResultsSnapshot snapshot).Passes := by
  unfold applyResultsSnapshot ingestLiveData
  rw [unpriced]
  refine (Program.Passes.call _).bind fun fixtureRefs => ?_
  refine (Program.Passes.foldlM (passes_ingestEvent fixtureRefs) _ _).bind fun _ => ?_
  refine (Program.Passes.call _).bind fun eventRefs => ?_
  refine (Program.Passes.foldlM (passes_ingestMarket eventRefs) _ _).bind fun _ => ?_
  refine (Program.Passes.call _).bind fun _ => (Program.Passes.call _).bind fun _ => ?_
  exact Program.Passes.pure _

theorem passes_loadOpenBetEvents : loadOpenBetEvents.Passes := by
  refine (Program.Passes.call _).bind fun eventIds => ?_
  split
  · exact Program.Passes.pure _
  · exact Program.Passes.call _

theorem passes_flagStaleBet (staleHours : ℕ) (cutoff : Time) (flagged : ℕ) (bet : Bet) :
    (flagStaleBet staleHours cutoff flagged bet).Passes := by
  refine (Program.Passes.call _).bind fun late => ?_
  split_ifs
  · exact Program.Passes.pure _
  · exact (Program.Passes.call _).bind fun _ => Program.Passes.pure _
  · exact Program.Passes.pure _
  · exact (Program.Passes.call _).bind fun _ => Program.Passes.pure _

theorem passes_flagStaleBets (staleHours : ℕ) (now : Time) :
    (flagStaleBets staleHours now).Passes := by
  refine (Program.Passes.call _).bind fun bets => ?_
  exact Program.Passes.foldlM (passes_flagStaleBet staleHours _) bets 0

end Passing

section Alone

/-- The database, and the requests that have been made. -/
structure World where
  db : Database
  requests : List ScoresRequest

/-- How the odds API answers each request, by how many have come before it. -/
abbrev ScoresApi := ℕ → ScoresRequest → Except Failure (List OddsApiEventScore × Time)

def answer (api : ScoresApi) : {Reply : Type} → Joint ScoresCall (Query Database Failure) Reply →
    World → Except Failure Reply × World
  | _, .own (.fetchScoresForEventIds sportKey eventIds), world =>
      (api world.requests.length ⟨sportKey, eventIds⟩,
        { world with requests := world.requests ++ [⟨sportKey, eventIds⟩] })
  | _, .other query, world => ((query world.db).1, { world with db := (query world.db).2 })

/-- Only the odds API may answer by a failure. -/
def Answered : {Reply : Type} → Joint ScoresCall (Query Database Failure) Reply → World → Prop
  | _, .own _, _ => True
  | _, .other query, world => (query world.db).1.isOk = true

instance decidableAnswered : {Reply : Type} → (call : Joint ScoresCall (Query Database Failure) Reply) →
    (world : World) → Decidable (Answered call world)
  | _, .own _, _ => inferInstanceAs (Decidable True)
  | _, .other query, world => inferInstanceAs (Decidable ((query world.db).1.isOk = true))

variable (runtime : Runtime) (toUpperCase : Char → String) (api : ScoresApi)

/-- What is made of an answer; a failure and an answer without scores are passed over. -/
def snapshotOf (request : ScoresRequest) :
    Except Failure (List OddsApiEventScore × Time) → Option ProviderSnapshot
  | .error _ => none
  | .ok (scores, now) =>
      if scores.isEmpty then none
      else some (snapshotFromScores runtime toUpperCase now request.sportKey scores)

/-- What is made of the answers to requests that follow so many others. -/
def snapshots : ℕ → List ScoresRequest → List ProviderSnapshot
  | _, [] => []
  | made, request :: rest =>
      (snapshotOf runtime toUpperCase request (api made request)).toList ++ snapshots (made + 1) rest

def applySnapshots (snapshots : List ProviderSnapshot) : Service Unit :=
  forM snapshots fun snapshot => (applyResultsSnapshot snapshot).void

variable {runtime toUpperCase api} {db middle : Database} {world : World}

theorem eval_applySnapshots_append {first : List ProviderSnapshot}
    (done : (applySnapshots first).eval db = (.ok (), middle)) (second : List ProviderSnapshot) :
    (applySnapshots (first ++ second)).eval db = (applySnapshots second).eval middle := by
  rw [applySnapshots, List.forM_append, Program.eval_bind]
  rw [applySnapshots] at done
  rw [done]
  rfl

theorem eval_applySnapshots_singleton {snapshot : ProviderSnapshot} {counts : LiveCounts}
    (applied : (applyResultsSnapshot snapshot).eval db = (.ok counts, middle)) :
    (applySnapshots [snapshot]).eval db = (.ok (), middle) := by
  rw [applySnapshots, List.forM_cons, Program.eval_bind, Program.eval_void, applied]
  rfl

/-- A service that throws nothing itself returns, and makes no requests. -/
theorem prisma_returns {α : Type} {service : Service α} (passes : service.Passes)
    (meets : (prisma service).Meets (answer api) Answered world) :
    ∃ value after, service.eval world.db = (.ok value, after) ∧
      (prisma service).solo (answer api) world = (.ok value, { world with db := after }) := by
  have alike : ∀ {Reply : Type} (query : Query Database Failure Reply) (db : Database),
      answer api (.other query) { world with db } =
        ((query db).1, { world with db := (query db).2 }) := fun _ _ => rfl
  have answered : service.Meets (fun query => query) (fun query db => (query db).1.isOk = true)
      world.db :=
    Program.Meets.of_mapCalls Joint.other (fun db => { world with db }) alike
      (fun _ _ ok => ok) meets
  obtain ⟨value, after, returned⟩ := passes.returns (fun query db ok => by
    cases reply : (query db).1 with
    | ok value => exact ⟨value, rfl⟩
    | error failure =>
        rw [reply] at ok
        cases ok) answered
  have evaluated := (Program.eval_eq_solo service world.db).trans returned
  have runs : (prisma service).solo (answer api) world =
      ((service.eval world.db).1, { world with db := (service.eval world.db).2 }) := by
    rw [Program.eval_eq_solo]
    exact Program.solo_mapCalls Joint.other (fun db => { world with db }) alike service world.db
  rw [evaluated] at runs
  exact ⟨value, after, evaluated, runs⟩

variable (runtime toUpperCase api) in
/-- From the world on, the answers to the requests have been applied. -/
def Ingested (world : World) (requests : List ScoresRequest) (updated : Database) : Prop :=
  (applySnapshots (snapshots runtime toUpperCase api world.requests.length requests)).eval world.db =
    (.ok (), updated)

theorem Ingested.cons {request : ScoresRequest} {requests : List ScoresRequest}
    {updated : Database} (first : Ingested runtime toUpperCase api world [request] middle)
    (rest : Ingested runtime toUpperCase api ⟨middle, world.requests ++ [request]⟩ requests updated) :
    Ingested runtime toUpperCase api world (request :: requests) updated := by
  unfold Ingested snapshots at first ⊢
  rw [snapshots, List.append_nil] at first
  rw [eval_applySnapshots_append first]
  unfold Ingested at rest
  rwa [List.length_append] at rest

variable (api) in
theorem fetchedScores_solo (world : World) (request : ScoresRequest) :
    (fetchedScores request.sportKey request.eventIds).solo (answer api) world =
      (.ok (api world.requests.length request).toOption,
        { world with requests := world.requests ++ [request] }) := by
  simp only [fetchedScores, fetchScoresForEventIds, Program.call, Program.bind_await,
    Program.handle, Program.solo, answer]
  cases api world.requests.length request with
  | error failure => rfl
  | ok reply => rfl

theorem applyScores_solo {request : ScoresRequest} {progress : Progress}
    {scores : List OddsApiEventScore} {now : Time}
    (meets : (applyScores runtime toUpperCase request.sportKey progress scores now).Meets
      (answer api) Answered world) :
    ∃ after updated, (applyScores runtime toUpperCase request.sportKey progress scores now).solo
        (answer api) world = (.ok after, { world with db := updated }) ∧
      (applySnapshots (snapshotOf runtime toUpperCase request (.ok (scores, now))).toList).eval
        world.db = (.ok (), updated) := by
  unfold applyScores at meets ⊢
  unfold snapshotOf
  dsimp only at meets ⊢
  split
  · next empty =>
      exact ⟨_, world.db, rfl, rfl⟩
  · next listed =>
      rw [if_neg listed] at meets
      have passes := passes_applyResultsSnapshot
        (selections_snapshotFromScores runtime toUpperCase now request.sportKey scores)
      obtain ⟨counts, updated, applied, returned⟩ := prisma_returns passes meets.of_bind.1
      rw [Program.solo_bind_ok returned]
      exact ⟨_, updated, rfl, eval_applySnapshots_singleton applied⟩

/-- **A chunk is requested**, and whatever becomes of the request, the run goes on. -/
theorem ingestChunk_solo {progress : Progress} {request : ScoresRequest}
    (meets : (ingestChunk runtime toUpperCase request.sportKey progress request.eventIds).Meets
      (answer api) Answered world) :
    ∃ after updated,
      (ingestChunk runtime toUpperCase request.sportKey progress request.eventIds).solo
        (answer api) world = (.ok after, ⟨updated, world.requests ++ [request]⟩) ∧
      Ingested runtime toUpperCase api world [request] updated := by
  have fetched := fetchedScores_solo api world request
  have rest := meets.of_bind.2 _ _ fetched
  unfold ingestChunk Ingested snapshots
  rw [Program.solo_bind_ok fetched, snapshots, List.append_nil]
  cases replied : api world.requests.length request with
  | error failure => exact ⟨progress, world.db, rfl, rfl⟩
  | ok reply =>
      rw [replied] at rest
      exact applyScores_solo rest

variable (runtime toUpperCase) in
/-- The chunks of all sports in one loop. -/
def ingestRequests (requests : List ScoresRequest) (progress : Progress) : ResultsService Progress :=
  requests.foldlM (fun progress request =>
    ingestChunk runtime toUpperCase request.sportKey progress request.eventIds) progress

theorem foldlM_ingestSport (groups : List (String × List OpenBetEvent)) (progress : Progress) :
    groups.foldlM (ingestSport runtime toUpperCase) progress =
      ingestRequests runtime toUpperCase (groups.flatMap requestsOf) progress := by
  induction groups generalizing progress with
  | nil => rfl
  | cons group rest ih =>
      have own : ingestSport runtime toUpperCase progress group =
          ingestRequests runtime toUpperCase (requestsOf group) progress := by
        rw [ingestRequests, requestsOf, List.foldlM_map]
        rfl
      rw [List.flatMap_cons, List.foldlM_cons, own]
      simp only [ih]
      exact (List.foldlM_append).symm

theorem ingestRequests_solo {requests : List ScoresRequest} {progress : Progress}
    (meets : (ingestRequests runtime toUpperCase requests progress).Meets (answer api) Answered
      world) :
    ∃ after updated, (ingestRequests runtime toUpperCase requests progress).solo (answer api)
        world = (.ok after, ⟨updated, world.requests ++ requests⟩) ∧
      Ingested runtime toUpperCase api world requests updated := by
  unfold ingestRequests at *
  induction requests generalizing progress world with
  | nil =>
      rw [List.append_nil]
      exact ⟨progress, world.db, rfl, rfl⟩
  | cons request rest ih =>
      rw [List.foldlM_cons] at meets ⊢
      obtain ⟨first, others⟩ := meets.of_bind
      obtain ⟨middle, db, returned, applied⟩ := ingestChunk_solo first
      obtain ⟨after, updated, ran, ingested⟩ := ih (others _ _ returned)
      rw [Program.solo_bind_ok returned, ran, List.append_assoc]
      exact ⟨after, updated, rfl, applied.cons ingested⟩

/-- **The scores of all events with open bets are asked for** once, in chunks of their leagues,
and what comes back is applied, whichever of the requests fail. -/
theorem open_bets_refreshed (runtime : Runtime) (toUpperCase : Char → String) {config : EnvConfig}
    (oddsApi : config.FIXTURE_PROVIDER = .oddsApi) (now : Time) (api : ScoresApi) (db : Database)
    (meets : (ingestOpenBetResults runtime toUpperCase config now).Meets (answer api) Answered
      ⟨db, []⟩) :
    Refreshes db (scoreRequests db) ∧ ∃ summary updated after,
      (ingestOpenBetResults runtime toUpperCase config now).solo (answer api) ⟨db, []⟩ =
        (.ok summary, ⟨after, scoreRequests db⟩) ∧
      (applySnapshots (snapshots runtime toUpperCase api 0 (scoreRequests db))).eval db =
        (.ok (), updated) ∧
      (scoreRequests db = [] ∧ after = updated ∨
        ∃ flagged, (flagStaleBets config.SETTLEMENT_STALE_HOURS now).eval updated =
          (.ok flagged, after)) := by
  refine ⟨refreshes_scoreRequests db, ?_⟩
  unfold ingestOpenBetResults at *
  rw [if_neg (not_not.mpr oddsApi)] at *
  obtain ⟨loads, rest⟩ := meets.of_bind
  obtain ⟨liabilities, same, loaded, returned⟩ := prisma_returns passes_loadOpenBetEvents loads
  obtain ⟨rfl, rfl⟩ : openBetEvents db = liabilities ∧ db = same := by
    rw [eval_loadOpenBetEvents] at loaded
    exact ⟨Except.ok.inj (Prod.mk.inj loaded).1, (Prod.mk.inj loaded).2⟩
  have remaining := rest _ _ returned
  rw [Program.solo_bind_ok returned]
  by_cases none_open : (openBetEvents db).isEmpty = true
  · have nothing : scoreRequests db = [] := by
      rw [scoreRequests, List.isEmpty_iff.mp none_open]
      rfl
    rw [if_pos none_open, nothing]
    exact ⟨_, db, db, rfl, rfl, .inl ⟨rfl, rfl⟩⟩
  · rw [if_neg none_open] at remaining ⊢
    dsimp only at remaining ⊢
    rw [foldlM_ingestSport] at remaining ⊢
    obtain ⟨asks, flags⟩ := remaining.of_bind
    obtain ⟨progress, updated, ran, ingested⟩ := ingestRequests_solo asks
    obtain ⟨flagged, after, evaluated, ended⟩ :=
      prisma_returns (passes_flagStaleBets _ _) (flags _ _ ran).of_bind.1
    rw [Program.solo_bind_ok ran, Program.solo_bind_ok ended]
    exact ⟨_, updated, after, rfl, ingested, .inr ⟨flagged, evaluated⟩⟩

end Alone

section Sample

def betOn (eventId : String) : Bet where
  id := eventId
  casinoGroupId := "group"
  userId := "user"
  username := "player"
  idempotencyKey := eventId
  stake := .ofUnits 1000
  currency := "EUR"
  status := .accepted
  combinedOdds := .ofUnits 2000
  potentialPayout := .ofUnits 2000
  walletReservationId := none
  rejectionReason := none
  payoutAmount := none
  settledAt := none
  settlementNote := none
  createdAt := 0
  legs := [⟨"winner:newts", "winner", eventId, "Newts", .ofUnits 2000, 0, .pending,
    some .matchResult, none, some "Newts", some "Toads", none, none, none, none, none⟩]

/-- Bets on the final of a cup and on a match of a league. -/
def openBets : Database where
  catalog := {
    sports := ⟨[⟨"handball", "Handball", "handball", true⟩], by simp⟩
    leagues := ⟨[⟨"handball_cup", "handball", "Cup", none, true⟩,
      ⟨"handball_league", "handball", "League", none, true⟩], by simp⟩
    teams := ⟨[⟨"newts", "handball", "Newts", none⟩, ⟨"toads", "handball", "Toads", none⟩], by simp⟩
    fixtures := ⟨[⟨"final", "handball_cup", "newts", "toads", 0, .live⟩,
      ⟨"match", "handball_league", "newts", "toads", 0, .live⟩], by simp⟩
    events := ⟨[⟨"final", "final", .live, none, none, none, none⟩,
      ⟨"match", "match", .live, none, none, none, none⟩], by simp⟩
    markets := .empty
    selections := .empty
    oddsSnapshots := []
    casinoGroups := .empty
    casinoGroupLeagues := .empty }
  ledger := ⟨⟨[betOn "final", betOn "match"], by simp [betOn]⟩, .empty, by
    simp [betOn, Bet.placement]⟩
  audit := []

/-- The first request fails, and the newts have won the match. -/
def firstFails : ScoresApi
  | 0, _ => .error (.error "Odds API request failed")
  | _ + 1, request => .ok (request.eventIds.map fun eventId =>
      ⟨eventId, "1970-01-01T00:00:00Z", true, "Newts", "Toads",
        some [⟨"Newts", "2"⟩, ⟨"Toads", "1"⟩]⟩, 7200000)

theorem league_refreshed_without_cup :
    Refreshes openBets (scoreRequests openBets) ∧ ∃ summary updated after,
      (ingestOpenBetResults asciiRuntime (fun symbol => symbol.toUpper.toString)
        ⟨.oddsApi, 6⟩ 7200000).solo (answer firstFails) ⟨openBets, []⟩ =
        (.ok summary, ⟨after, scoreRequests openBets⟩) ∧
      (applySnapshots (snapshots asciiRuntime (fun symbol => symbol.toUpper.toString) firstFails
        0 (scoreRequests openBets))).eval openBets = (.ok (), updated) ∧
      (scoreRequests openBets = [] ∧ after = updated ∨
        ∃ flagged, (flagStaleBets 6 7200000).eval updated = (.ok flagged, after)) :=
  open_bets_refreshed asciiRuntime _ rfl 7200000 firstFails openBets (by decide +kernel)

end Sample

end SportsBetting.ResultsIngestService
