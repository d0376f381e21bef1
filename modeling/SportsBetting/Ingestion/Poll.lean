import SportsBetting.Ingestion.Stale
import SportsBetting.Settlement.Backlog
import SportsBetting.Settlement.Grading

/-!
# The poll for results

A poll refreshes the events with open bets, notes which bets wait for a result, and then
settles the oldest accepted bets that can be graded.
-/

namespace SportsBetting.ResultsIngestService

open Async Ledger SettlementService Text

section Definitions

/-- Requests for scores, calls of settlement, and queries of the ingestion. -/
abbrev PollCall := Joint ScoresCall (Joint BettingCall (Query Database Failure))

def ofResults {Reply : Type} : Joint ScoresCall (Query Database Failure) Reply → PollCall Reply
  | .own call => .own call
  | .other query => .other (.other query)

def ofSettlement {Reply : Type} (call : BettingCall Reply) : PollCall Reply := .other (.own call)

def runResultsAndSettlement (runtime : Runtime) (toUpperCase : Char → String) (config : EnvConfig)
    (now : Time) : Program PollCall Failure ResultsIngestSummary := do
  let ingest ← (ingestOpenBetResults runtime toUpperCase config now).mapCalls ofResults
  let betsSettled ← (settleBatch runtime).mapCalls ofSettlement
  pure { ingest with betsSettled }

structure PollState where
  world : SportsBetting.World
  requests : List ScoresRequest
  /-- How many calls settlement has made. -/
  made : ℕ

def pollAnswer (api : ScoresApi) (choices : ℕ → Choice) : Answers PollCall Failure PollState
  | _, .own (.fetchScoresForEventIds sportKey eventIds), state =>
      (api state.requests.length ⟨sportKey, eventIds⟩,
        { state with requests := state.requests ++ [⟨sportKey, eventIds⟩] })
  | _, .other (.own call), state =>
      ((inOrder choices call (state.world, state.made)).1,
        { state with
          world := (inOrder choices call (state.world, state.made)).2.1
          made := (inOrder choices call (state.world, state.made)).2.2 })
  | _, .other (.other query), state =>
      ((query state.world.db).1, { state with world.db := (query state.world.db).2 })

/-- The cutoff of a run that comes to the stale bets at the time. -/
def EnvConfig.cutoff (config : EnvConfig) (now : Time) : Time :=
  now - config.SETTLEMENT_STALE_HOURS * 60 * 60 * 1000

/-- How many bets are overdue without a note that says so. -/
def newsCount (staleHours : ℕ) (cutoff : Time) (db : Database) : ℕ :=
  (db.ledger.bets.rows.filter isAccepted).countP (isNews staleHours cutoff db)

end Definitions

section Parts

variable {α : Type} (api : ScoresApi) (choices : ℕ → Choice)

/-- The ingestion sees of a poll the database and the requests. -/
theorem solo_ofResults (world : SportsBetting.World) (service : ResultsService α) (state : World) :
    (service.mapCalls ofResults).solo (pollAnswer api choices)
        ⟨{ world with db := state.db }, state.requests, 0⟩ =
      ((service.solo (answer api) state).1,
        ⟨{ world with db := (service.solo (answer api) state).2.db },
          (service.solo (answer api) state).2.requests, 0⟩) := by
  refine Program.solo_mapCalls ofResults
    (fun state : World => (⟨{ world with db := state.db }, state.requests, 0⟩ : PollState)) ?_
    service state
  intro Reply request state
  cases request with
  | own call =>
      cases call
      rfl
  | other query => rfl

theorem solo_ofSettlement (requests : List ScoresRequest) (service : Betting α)
    (state : SportsBetting.World × ℕ) :
    (service.mapCalls ofSettlement).solo (pollAnswer api choices) ⟨state.1, requests, state.2⟩ =
      ((service.solo (inOrder choices) state).1,
        ⟨(service.solo (inOrder choices) state).2.1, requests,
          (service.solo (inOrder choices) state).2.2⟩) :=
  Program.solo_mapCalls ofSettlement
    (fun state : SportsBetting.World × ℕ => (⟨state.1, requests, state.2⟩ : PollState))
    (fun _ _ => rfl) service state

end Parts

section Ingestion

variable {runtime : Runtime} {toUpperCase : Char → String} {api : ScoresApi} {db : Database}

/-- A run that finds open bets leaves their notes up to date. -/
theorem ingestOpenBetResults_solo {config : EnvConfig} (oddsApi : config.FIXTURE_PROVIDER = .oddsApi)
    (now : Time) (meets : (ingestOpenBetResults runtime toUpperCase config now).Meets (answer api)
      Answered ⟨db, []⟩) (waiting : openBetEvents db ≠ []) :
    ∃ summary fetched, (ingestOpenBetResults runtime toUpperCase config now).solo (answer api)
        ⟨db, []⟩ = (.ok summary, ⟨noteBets config.SETTLEMENT_STALE_HOURS (config.cutoff now) fetched
          isAccepted, scoreRequests db⟩) ∧
      (applySnapshots (snapshots runtime toUpperCase api 0 (scoreRequests db))).eval db =
        (.ok (), fetched) ∧
      summary.betsFlaggedStale =
        newsCount config.SETTLEMENT_STALE_HOURS (config.cutoff now) fetched := by
  unfold ingestOpenBetResults at *
  rw [if_neg (not_not.mpr oddsApi)] at *
  obtain ⟨loads, rest⟩ := meets.of_bind
  obtain ⟨liabilities, same, loaded, returned⟩ := prisma_returns passes_loadOpenBetEvents loads
  obtain ⟨rfl, rfl⟩ : openBetEvents db = liabilities ∧ db = same := by
    rw [eval_loadOpenBetEvents] at loaded
    exact ⟨Except.ok.inj (Prod.mk.inj loaded).1, (Prod.mk.inj loaded).2⟩
  have remaining := rest _ _ returned
  rw [Program.solo_bind_ok returned]
  rw [if_neg (by simpa using waiting)] at remaining ⊢
  dsimp only at remaining ⊢
  rw [foldlM_ingestSport] at remaining ⊢
  obtain ⟨asks, flags⟩ := remaining.of_bind
  obtain ⟨progress, fetched, ran, ingested⟩ := ingestRequests_solo asks
  obtain ⟨flagged, after, evaluated, ended⟩ :=
    prisma_returns (passes_flagStaleBets _ _) (flags _ _ ran).of_bind.1
  rw [Program.solo_bind_ok ran, Program.solo_bind_ok ended]
  dsimp only at evaluated
  rw [eval_flagStaleBets] at evaluated
  obtain ⟨count, rfl⟩ := Prod.mk.inj evaluated
  exact ⟨_, fetched, rfl, ingested, (Except.ok.inj count).symm⟩

end Ingestion

section Settling

variable {runtime : Runtime} {world : SportsBetting.World} {choices : ℕ → Choice} {betId : String}

/-- The bets of a loop that returns are all settled. -/
theorem settles_persisted {graded : List GradedBet} {batchIdByGroup result : List (String × ℕ)}
    {before : Database} {state after : SportsBetting.World × ℕ}
    (accepted : ∀ entry ∈ graded, (before.ledger.entry entry.bet.id).isAccepted = true)
    (ran : (graded.foldlM (fun batchIdByGroup entry => do
      let (batchId, batchIdByGroup) ← batchIdFor batchIdByGroup entry.bet.casinoGroupId
      let _ ← transact (.settleBet entry batchId)
      return batchIdByGroup : List (String × ℕ) → GradedBet → Betting (List (String × ℕ)))
      batchIdByGroup).solo (inOrder choices) state = (.ok result, after)) :
    ∀ entry ∈ graded, (after.1.db.ledger.entry entry.bet.id).isSettled = true := by
  induction graded generalizing batchIdByGroup state with
  | nil => exact fun _ never => absurd never List.not_mem_nil
  | cons first rest ih =>
      have others : ∀ entry ∈ rest, (before.ledger.entry entry.bet.id).isAccepted = true :=
        fun entry member => accepted entry (List.mem_cons_of_mem _ member)
      simp only [List.foldlM_cons, bind_assoc, pure_bind] at ran
      obtain ⟨⟨batchId, next⟩, drawn, drew⟩ := Program.solo_bind_returns (congrArg Prod.fst ran)
      rw [Program.solo_bind_ok drew] at ran
      obtain ⟨bet, written, wrote⟩ := Program.solo_bind_returns (congrArg Prod.fst ran)
      rw [Program.solo_bind_ok wrote] at ran
      intro entry member
      rcases List.mem_cons.mp member with rfl | member
      · have keeps : ∀ {Reply : Type} (request : BettingCall Reply) (state : SportsBetting.World × ℕ),
            request.Settling before → (state.1.db.ledger.entry entry.bet.id).isSettled = true →
              ((inOrder choices request state).2.1.db.ledger.entry entry.bet.id).isSettled = true :=
          fun _ _ settling settled => isSettled_answer settling _ settled
        have kept := Program.solo_keeps keeps (persist_settling others next) (settled_of_written wrote)
        rwa [ran] at kept
      · exact ih others ran entry member

/-- A run that returns has settled what it graded, and tells how many bets that are. -/
theorem settleAlone_returned (faultless : Faultless choices) {count : ℕ}
    (returned : (settleAlone runtime choices world).1 = .ok count) :
    count = (gradedOldest runtime world choices).length ∧
      ∀ entry ∈ gradedOldest runtime world choices,
        ((settleAlone runtime choices world).2.db.ledger.entry entry.bet.id).isSettled = true := by
  by_cases nothing : gradedOldest runtime world choices = []
  · rw [settleAlone_idle faultless nothing] at returned
    rw [nothing]
    exact ⟨(Except.ok.inj returned).symm, fun _ never => absurd never List.not_mem_nil⟩
  · obtain ⟨later, runs⟩ := solo_settleBatch runtime world faultless
    unfold settleAlone at returned ⊢
    rw [runs, if_neg nothing] at returned ⊢
    obtain ⟨⟨⟩, after, applied⟩ := Program.solo_bind_returns returned
    rw [Program.solo_bind_ok applied] at returned ⊢
    refine ⟨(Except.ok.inj returned).symm, fun entry member => ?_⟩
    unfold applySettlements at applied
    obtain ⟨batchIds, stored, persisted⟩ := Program.solo_bind_returns (congrArg Prod.fst applied)
    rw [Program.solo_bind_ok persisted] at applied
    have settled := settles_persisted (fun _ => accepted_of_gradedOldest) persisted entry member
    have keeps : ∀ {Reply : Type} (request : BettingCall Reply) (state : SportsBetting.World × ℕ),
        request.Settling world.db → (state.1.db.ledger.entry entry.bet.id).isSettled = true →
          ((inOrder choices request state).2.1.db.ledger.entry entry.bet.id).isSettled = true :=
      fun _ _ settling settled => isSettled_answer settling _ settled
    have flushes : (do
        let _ ← WalletOutboxService.flushSettlementBatches
        return () : Betting Unit).CallsOnly (BettingCall.Settling world.db) :=
      Program.CallsOnly.bind flush_settling fun _ => trivial
    have kept := Program.solo_keeps keeps flushes settled
    rwa [applied] at kept

theorem mem_gradedOldest : (∃ entry ∈ gradedOldest runtime world choices, entry.bet.id = betId) ↔
    ∃ bet ∈ oldestBets world choices, bet.id = betId ∧ (grade runtime world.db betId).isSome = true := by
  constructor
  · rintro ⟨entry, member, rfl⟩
    obtain ⟨id, listed, passes⟩ := List.mem_filterMap.mp member
    obtain ⟨bet, looked, same⟩ := List.mem_map.mp listed
    have own := (accepted_of_grade passes).1
    exact ⟨bet, looked, same.trans own.symm, by rw [own, passes]; rfl⟩
  · rintro ⟨bet, looked, rfl, graded⟩
    obtain ⟨entry, passes⟩ := Option.isSome_iff_exists.mp graded
    have member : entry ∈ gradedOldest runtime world choices :=
      List.mem_filterMap.mpr ⟨bet.id, List.mem_map_of_mem looked, passes⟩
    exact ⟨entry, member, (accepted_of_grade passes).1⟩

/-- A bet that the run does not grade is left as it is. -/
theorem settleAlone_spares (faultless : Faultless choices)
    (others : ∀ entry ∈ gradedOldest runtime world choices, entry.bet.id ≠ betId) :
    ((settleAlone runtime choices world).2.db.ledger.entry betId).bet =
      (world.db.ledger.entry betId).bet := by
  -- As if the bet were not there: then no call of the run could settle it.
  let before : Database := { world.db with ledger := world.db.ledger.deleteBets fun id => id = betId }
  have gone : ∀ id, before.ledger.bets.get? id =
      (world.db.ledger.bets.get? id).filter fun bet => !decide (bet.id = betId) := fun id =>
    Table.get?_deleteWhere world.db.ledger.bets (fun bet => decide (bet.id = betId)) id
  have absent : (before.ledger.entry betId).isAccepted = false := by
    have none : before.ledger.bets.get? betId = none := by
      rw [gone]
      refine Option.filter_eq_none_iff.mpr fun bet found => ?_
      simp [(Table.get?_eq_some_iff.mp found).2]
    unfold Entry.isAccepted Ledger.entry
    dsimp only
    rw [none]
  have accepted : ∀ entry ∈ gradedOldest runtime world choices,
      (before.ledger.entry entry.bet.id).isAccepted = true := by
    intro entry member
    obtain ⟨bet, stored, status⟩ := Entry.isAccepted_iff.mp (accepted_of_gradedOldest member)
    have other : entry.bet.id ≠ betId := others entry member
    refine Entry.isAccepted_iff.mpr ⟨bet, (gone _).trans ?_, status⟩
    have found : world.db.ledger.bets.get? entry.bet.id = some bet := stored
    rw [found]
    exact Option.filter_some_pos (by simp [(Table.get?_eq_some_iff.mp found).2, other])
  obtain ⟨later, runs⟩ := solo_settleBatch runtime world faultless
  have keeps : ∀ {Reply : Type} (request : BettingCall Reply) (state : SportsBetting.World × ℕ),
      request.Settling before →
        (state.1.db.ledger.entry betId).bet = (world.db.ledger.entry betId).bet →
          ((inOrder choices request state).2.1.db.ledger.entry betId).bet =
            (world.db.ledger.entry betId).bet := by
    intro Reply request state settling same
    rcases settling_entry state.1 settling (choices state.2) betId with still | ⟨was, _⟩
    · exact still.trans same
    · rw [absent] at was
      cases was
  unfold settleAlone
  rw [runs]
  refine Program.solo_keeps keeps ?_ rfl
  split
  · trivial
  · exact Program.CallsOnly.bind (applySettlements_settling accepted) fun _ => trivial

end Settling

section Waiting

variable {runtime : Runtime} {cutoff : Time} {db : Database} {bet : Bet}

theorem event_of_findEvent {eventId : String} {row : EventRow}
    (found : findEvent db eventId = some row) : db.catalog.events.get? eventId = some row.event := by
  unfold findEvent at found
  simp only [Option.bind_eq_bind, Option.bind_eq_some_iff, Option.pure_def, Option.some.injEq] at found
  obtain ⟨event, stored, fixture, _, homeTeam, _, awayTeam, _, league, _, sport, _, rfl⟩ := found
  exact stored

/-- The status in a context is that of the event. -/
theorem eventStatus_of_legContext {leg : BetLeg} {context : LegContext}
    (read : legContext db leg = some context) {event : Event}
    (stored : db.catalog.events.get? leg.eventId = some event) :
    context.eventStatus = event.status := by
  unfold legContext at read
  split at read
  · next row market found _ =>
      have same := event_of_findEvent found
      rw [stored] at same
      obtain rfl := Option.some.inj same
      split at read
      · obtain rfl := Option.some.inj read
        rfl
      · obtain ⟨_, _, rfl⟩ := Option.map_eq_some_iff.mp read
        rfl
  · cases read

/-- An overdue bet gets no grade: its event has not ended. -/
theorem grade_of_overdue (runtime : Runtime) (stored : bet ∈ db.ledger.bets)
    (late : Overdue cutoff db bet) : grade runtime db bet.id = none := by
  obtain ⟨leg, own, event, present, same, waits, _⟩ := late
  by_contra some_grade
  obtain ⟨graded, passes⟩ := Option.ne_none_iff_exists'.mp some_grade
  unfold grade findAccepted at passes
  obtain ⟨read, accepted, all⟩ := Option.bind_eq_some_iff.mp passes
  obtain ⟨found, kept, rfl⟩ := Option.map_eq_some_iff.mp accepted
  obtain ⟨row, _⟩ := Option.filter_eq_some_iff.mp kept
  rw [Table.get?_of_mem stored] at row
  obtain rfl := Option.some.inj row
  obtain ⟨contexts, each, final, _⟩ := legResults_of_graded all
  obtain ⟨index, inside, rfl⟩ := List.getElem_of_mem (mem_sortLegs.mpr own)
  rw [List.forall₂_map_left_iff] at each
  have bound := each.length_eq ▸ inside
  have context := each.get inside bound
  have ended := final _ (List.getElem_mem bound)
  have status := eventStatus_of_legContext context (Table.get?_eq_some_iff.mpr ⟨present, same⟩)
  simp only [isFinal, Bool.and_eq_true, decide_eq_true_eq] at ended
  exact waits (status.symm.trans ended.1)

end Waiting

section Polls

/-- What a poll makes of a world in which the answers to its requests have been applied. -/
structure Polled (runtime : Runtime) (staleHours : ℕ) (cutoff : Time) (choices : ℕ → Choice)
    (fetched : SportsBetting.World) (summary : ResultsIngestSummary) (after : Database) : Prop where
  flagged : summary.betsFlaggedStale = newsCount staleHours cutoff fetched.db
  /-- The notes of the bets that are still open are up to date. -/
  notes : ∀ bet ∈ after.ledger.bets, bet.status = .accepted →
    (Overdue cutoff after bet → bet.settlementNote = some (staleNote staleHours)) ∧
    (¬ Overdue cutoff after bet → bet.settlementNote.getD "" = "")
  /-- An overdue bet stays open. -/
  waits : ∀ bet ∈ fetched.db.ledger.bets, bet.status = .accepted →
    Overdue cutoff fetched.db bet → renoted staleHours cutoff fetched.db bet ∈ after.ledger.bets
  /-- Of the oldest bets those that get a grade are settled, and no others. -/
  settles : let noted := { fetched with db := noteBets staleHours cutoff fetched.db isAccepted }
    (∀ betId, Settles noted.db after betId ↔ ∃ bet ∈ oldestBets noted choices,
      bet.id = betId ∧ (grade runtime noted.db betId).isSome = true) ∧
    summary.betsSettled =
      (oldestBets noted choices).countP fun bet => (grade runtime noted.db bet.id).isSome

variable {runtime : Runtime} {toUpperCase : Char → String} {config : EnvConfig} {now : Time}
  {api : ScoresApi} {choices : ℕ → Choice} {world : SportsBetting.World}

theorem length_filterMap_grade (bets : List Bet) (db : Database) :
    ((bets.map Bet.id).filterMap (grade runtime db)).length =
      bets.countP fun bet => (grade runtime db bet.id).isSome := by
  rw [List.filterMap_map]
  induction bets with
  | nil => rfl
  | cons bet rest ih =>
      rw [List.countP_cons, List.filterMap_cons, ← ih]
      dsimp only [Function.comp_apply]
      cases grade runtime db bet.id <;> simp

/-- Settling from notes that are up to date. -/
theorem polled_of_settled {staleHours : ℕ} {cutoff : Time} {fetched : SportsBetting.World}
    {summary : ResultsIngestSummary} (faultless : Faultless choices)
    (flagged : summary.betsFlaggedStale = newsCount staleHours cutoff fetched.db)
    (returned : (settleAlone runtime choices
      { fetched with db := noteBets staleHours cutoff fetched.db isAccepted }).1 =
        .ok summary.betsSettled) :
    Polled runtime staleHours cutoff choices fetched summary (settleAlone runtime choices
      { fetched with db := noteBets staleHours cutoff fetched.db isAccepted }).2.db := by
  let noted : SportsBetting.World :=
    { fetched with db := noteBets staleHours cutoff fetched.db isAccepted }
  have only : OnlySettles noted.db (settleAlone runtime choices noted).2.db :=
    onlySettles_settleAlone faultless
  have catalog : (settleAlone runtime choices noted).2.db.catalog = fetched.db.catalog := only.catalog
  obtain ⟨count, settled⟩ := settleAlone_returned faultless returned
  refine ⟨flagged, ?_, ?_, ?_, ?_⟩
  · intro bet stored accepted
    have here : ((settleAlone runtime choices noted).2.db.ledger.entry bet.id).bet = some bet :=
      entry_bet.mpr ⟨stored, rfl⟩
    have same := only.same_of_accepted (Entry.isAccepted_iff.mpr ⟨bet, here, accepted⟩)
    have before : bet ∈ noted.db.ledger.bets := (entry_bet.mp (same.symm.trans here)).1
    obtain ⟨old, _, rfl⟩ := mem_noteBets.mp before
    have open_ : isAccepted old = true := by
      by_contra closed
      rw [if_neg closed] at accepted
      exact closed (decide_eq_true accepted)
    rw [if_pos open_, ← isOverdue_iff, isOverdue_congr catalog]
    have alike : isOverdue cutoff fetched.db (renoted staleHours cutoff fetched.db old) =
        isOverdue cutoff fetched.db old := rfl
    rw [alike]
    dsimp only [renoted]
    cases late : isOverdue cutoff fetched.db old with
    | true => simp
    | false => by_cases bare : old.settlementNote.getD "" = "" <;> simp [bare]
  · intro bet stored accepted late
    have listed : renoted staleHours cutoff fetched.db bet ∈ noted.db.ledger.bets :=
      mem_noteBets.mpr ⟨bet, stored, if_pos (decide_eq_true accepted)⟩
    have still : Overdue cutoff noted.db (renoted staleHours cutoff fetched.db bet) := late
    have ungraded : grade runtime noted.db (renoted staleHours cutoff fetched.db bet).id = none :=
      grade_of_overdue runtime listed still
    have others : ∀ entry ∈ gradedOldest runtime noted choices, entry.bet.id ≠ bet.id := by
      intro entry member same
      obtain ⟨_, _, _, graded⟩ := mem_gradedOldest.mp ⟨entry, member, same⟩
      rw [show bet.id = (renoted staleHours cutoff fetched.db bet).id from rfl, ungraded] at graded
      cases graded
    have here : (noted.db.ledger.entry bet.id).bet =
      some (renoted staleHours cutoff fetched.db bet) := entry_bet.mpr ⟨listed, rfl⟩
    exact (entry_bet.mp ((settleAlone_spares faultless others).trans here)).1
  · intro betId
    rw [← mem_gradedOldest]
    constructor
    · rintro ⟨accepted, now⟩
      by_contra never
      have same := settleAlone_spares faultless fun entry member own => never ⟨entry, member, own⟩
      unfold Entry.isSettled at now
      rw [same] at now
      exact absurd (accepted.symm.trans (Entry.isAccepted_of_settled now)) (by simp)
    · rintro ⟨entry, member, rfl⟩
      exact ⟨accepted_of_gradedOldest member, settled entry member⟩
  · exact count.trans (length_filterMap_grade _ _)

/-- **A poll for results** that returns has asked for the events with open bets, has applied what
came back, and then leaves an open bet with the note exactly if the bet is overdue, and
settles exactly those of the oldest bets that can be graded. -/
theorem results_polled (oddsApi : config.FIXTURE_PROVIDER = .oddsApi)
    (meets : (ingestOpenBetResults runtime toUpperCase config now).Meets (answer api) Answered
      ⟨world.db, []⟩) (waiting : openBetEvents world.db ≠ []) (faultless : Faultless choices)
    {summary : ResultsIngestSummary} {after : PollState}
    (returned : (runResultsAndSettlement runtime toUpperCase config now).solo
      (pollAnswer api choices) ⟨world, [], 0⟩ = (.ok summary, after)) :
    after.requests = scoreRequests world.db ∧ ∃ fetched,
      (applySnapshots (snapshots runtime toUpperCase api 0 (scoreRequests world.db))).eval world.db =
        (.ok (), fetched) ∧
      Polled runtime config.SETTLEMENT_STALE_HOURS (config.cutoff now) choices
        { world with db := fetched } summary after.world.db := by
  obtain ⟨ingest, fetched, ran, applied, flagged⟩ := ingestOpenBetResults_solo oddsApi now meets waiting
  let noted : SportsBetting.World :=
    { world with db := noteBets config.SETTLEMENT_STALE_HOURS (config.cutoff now) fetched isAccepted }
  have ingested : ((ingestOpenBetResults runtime toUpperCase config now).mapCalls ofResults).solo
      (pollAnswer api choices) ⟨world, [], 0⟩ =
        (.ok ingest, ⟨noted, scoreRequests world.db, 0⟩) := by
    have alike := solo_ofResults api choices world
      (ingestOpenBetResults runtime toUpperCase config now) ⟨world.db, []⟩
    rw [ran] at alike
    exact alike
  have settling := solo_ofSettlement api choices (scoreRequests world.db) (settleBatch runtime)
    (noted, 0)
  unfold runResultsAndSettlement at returned
  rw [Program.solo_bind_ok ingested] at returned
  obtain ⟨count, left, settled⟩ := Program.solo_bind_returns (congrArg Prod.fst returned)
  rw [Program.solo_bind_ok settled] at returned
  obtain ⟨same, rfl⟩ := Prod.mk.inj returned
  obtain rfl := Except.ok.inj same
  obtain ⟨outcome, rfl⟩ := Prod.mk.inj (settled.symm.trans settling)
  exact ⟨rfl, fetched, applied, polled_of_settled faultless flagged outcome.symm⟩

end Polls

section Sample

/-- The match has a market on its winner, and the wallet has not yet been asked. -/
def openWorld : SportsBetting.World :=
  { Sample.world with
    db := { openBets with
      catalog.markets := ⟨[⟨"winner", "match", .matchResult, .open, none⟩], by simp⟩ }
    clock := 7200000 }

/-- One bet is settled, and one waits. -/
def firstPoll : ResultsIngestSummary :=
  ⟨false, ["handball_cup", "handball_league"], 2, 1, 1, 1, 1⟩

theorem cup_flagged_league_settled :
    let after := ((runResultsAndSettlement asciiRuntime (fun symbol => symbol.toUpper.toString)
      ⟨.oddsApi, 1⟩ 7200000).solo (pollAnswer firstFails plainChoices) ⟨openWorld, [], 0⟩).2
    after.requests = scoreRequests openWorld.db ∧ ∃ fetched,
      (applySnapshots (snapshots asciiRuntime (fun symbol => symbol.toUpper.toString) firstFails 0
        (scoreRequests openWorld.db))).eval openWorld.db = (.ok (), fetched) ∧
      Polled asciiRuntime 1 3600000 plainChoices { openWorld with db := fetched } firstPoll
        after.world.db :=
  results_polled rfl (by decide +kernel) (by decide +kernel) plainChoices_faultless
    (Prod.ext (by decide +kernel) rfl)

end Sample

end SportsBetting.ResultsIngestService
