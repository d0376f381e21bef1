import SportsBetting.Backoffice.Statuses
import SportsBetting.Settlement.Grading

/-!
# Void markets and the refunds of their bets

A bet with a leg on a void market is graded void, whatever the score. Ingestion and manual
results write the status of a market without looking at it, so a market stays void as long as
no snapshot lists it and nothing ends its event.
-/

namespace SportsBetting.Trading

open Async Ingestion OddsApi Text SettlementService

section Conditions

variable (market : Market)

/-- The snapshot lists the market, or ends its event. -/
def Overwrites (snapshot : ProviderSnapshot) : Prop :=
  (∃ listed ∈ snapshot.markets, listed.providerRef = market.providerRef) ∨
    ∃ event ∈ snapshot.events, event.providerRef = market.event ∧ event.status = .ended

/-- Nothing that the operation applies overwrites the market, and it does not purge its event. -/
def Operation.LeavesAlone (isOddsApi : Bool) (db : Database) : Operation → Prop
  | .ingest run => ∀ snapshot, run.Fetches db snapshot → ¬ Overwrites market snapshot ∧
      ∀ event ∈ db.catalog.events, event.providerRef = market.event →
        ¬ run.Purges isOddsApi snapshot db event.fixture
  | .finalizeEventResult providerRef _ _ => providerRef ≠ market.event
  | .trading _ _ _ => False

/-- The session is an ingest run or a manual result, as far as it comes. -/
def Operation.Spares (runtime : Runtime) (isOddsApi : Bool) (db : Database)
    (session : Session databaseMachine) : Prop :=
  ∃ operation : Operation, session.program = operation.program runtime isOddsApi ∧
    operation.LeavesAlone market isOddsApi db

end Conditions

section Keeping

variable {market : Market} {snapshot : ProviderSnapshot} {db : Database}

def Stays (market : Market) (db : Database) : Prop := market ∈ db.catalog.markets

theorem Stays.settleMarkets (stays : Stays market db) {eventRef : String}
    (apart : market.event ≠ eventRef) : Stays market (settleMarkets db eventRef) := by
  apply (mem_settleMarkets_of_spared _).mpr stays
  intro old stored same
  obtain rfl := Table.eq_of_key stored stays same
  exact apart

theorem stays_ingestLiveData (spared : ¬ Overwrites market snapshot) (stays : Stays market db) :
    Keeps (Stays market) (fun _ _ => True) (ingestLiveData snapshot) db := by
  obtain ⟨unlisted, running⟩ := not_or.mp spared
  unfold ingestLiveData
  refine Upholds.bind (Upholds.read stays) ?_
  rintro fixtureRefs db stays ⟨rfl, _⟩
  refine Upholds.bind (keeps_ingestEvents snapshot ?_ ?_ ?_ fixtureRefs stays) ?_
  · intro event _ db after stays done
    obtain rfl := upsertEvent_ok done
    exact stays
  · intro event listed ended db stays
    exact stays.settleMarkets fun same => running ⟨event, listed, same.symm, ended⟩
  · exact fun event _ _ db stays => stays
  rintro _ db stays _
  refine Upholds.bind (Upholds.read stays) ?_
  rintro eventRefs db stays _
  refine Upholds.bind (keeps_ingestMarkets snapshot (fun _ => Stays market) (fun _ _ => id)
    eventRefs ?_ (fun _ _ _ _ => id) stays) ?_
  · intro listed rest db after member _ stays done
    obtain ⟨line, _, rfl⟩ := upsertMarket_ok done
    exact Table.mem_put.mpr (.inr ⟨stays, fun same => unlisted ⟨listed, member, same.symm⟩⟩)
  rintro _ db stays _
  refine Upholds.bind (Upholds.read stays) ?_
  rintro marketRefs db stays _
  refine Upholds.bind (Upholds.read stays) ?_
  rintro prices db stays _
  refine Upholds.bind (keeps_ingestSelections snapshot marketRefs _ (fun _ _ => id) ?_ stays)
    fun _ _ stays _ => Upholds.pure stays trivial
  intro selection _ _ db after stays done
  obtain ⟨price, rfl⟩ := upsertSelection_ok done
  exact stays

/-- Market and event go with their fixture only. -/
theorem Stays.purge (stays : Stays market db) (ledger : Ledger) {fixtures : List String}
    (kept : ∀ event ∈ db.catalog.events, event.providerRef = market.event →
      event.fixture ∉ fixtures) :
    Stays market { db with ledger, catalog := cascadeFixtures fixtures db.catalog } := by
  apply Table.mem_deleteWhere.mpr
  refine ⟨stays, ?_⟩
  dsimp only
  cases known : db.catalog.events.get? market.event with
  | none => rfl
  | some event =>
      obtain ⟨stored, ref⟩ := Table.get?_eq_some_iff.mp known
      exact decide_eq_false (kept event stored ref)

/-- Wherever a run stops, the market is as it was. -/
theorem stays_of_run {runtime : Runtime} {isOddsApi : Bool} (run : IngestRun)
    (moves : List (Move databaseMachine)) (stays : Stays market db)
    (spared : (Operation.ingest run).LeavesAlone market isOddsApi db) :
    Stays market (Session.result ⟨run.program runtime isOddsApi, moves⟩ db) := by
  refine (IngestRun.result_upholds (Stays market) runtime isOddsApi
    (fun snapshot after => run.Fetches db snapshot ∧ SameGames db after)
    (fun snapshot after => run.Fetches db snapshot ∧ Stays market after) (fun _ _ => True)
    ?_ ?_ ?_ run ?_ ?_ moves stays ?_).1
  · rintro snapshot first second onward ⟨fetched, start⟩
    exact ⟨fetched, start.trans onward.toSameGames⟩
  · rintro snapshot after ⟨fetched, start⟩
    refine ⟨fetched, ?_⟩
    unfold Stays
    rwa [start.markets]
  · exact fun snapshot after held => held.2
  · rintro purges snapshot after fixtures ledger ⟨fetched, start⟩ chosen
    refine ⟨fetched, Stays.purge ?_ ledger ?_⟩
    · unfold Stays
      rwa [start.markets]
    · intro event stored ref gone
      rw [start.events] at stored
      obtain ⟨stale, idle⟩ := chosen event.fixture gone
      rw [start.fixtureHasActiveBets] at idle
      exact (spared snapshot fetched).2 event stored ref ⟨purges, stale, idle⟩
  · exact fun snapshot after held => stays_ingestLiveData (spared snapshot held.1).1 held.2
  · exact fun snapshot fetched => ⟨fetched, SameGames.refl db⟩

theorem stays_finalizeEventResult (stays : Stays market db) {providerRef : String}
    (apart : providerRef ≠ market.event) (homeScore awayScore : ℤ) :
    Keeps (Stays market) (fun _ _ => True) (finalizeEventResult providerRef homeScore awayScore)
      db := by
  apply keeps_finalizeEventResult providerRef homeScore awayScore _ _ (fun _ => id) (fun _ => id)
    stays
  · intro db event after _ stays done
    unfold Stays
    rwa [(endEvent_ok done).1]
  · exact fun db stays => stays.settleMarkets apart.symm

theorem stays_of_session {runtime : Runtime} {isOddsApi : Bool} {session : Session databaseMachine}
    (stays : Stays market db) (spares : Operation.Spares market runtime isOddsApi db session) :
    Stays market (session.result db) := by
  obtain ⟨program, moves⟩ := session
  obtain ⟨operation, same, spared⟩ := spares
  obtain rfl : program = operation.program runtime isOddsApi := same
  cases operation with
  | ingest run => exact stays_of_run run moves stays spared
  | finalizeEventResult providerRef homeScore awayScore =>
      exact (Upholds.result stays
        (Upholds.void (stays_finalizeEventResult stays spared homeScore awayScore))).1
  | trading tenant staffUserId call => exact spared.elim

end Keeping

section Refunds

variable {market : Market} {db : Database} {runtime : Runtime} {bet : Bet} {graded : GradedBet}

/-- A leg on a void market is void before any score is looked at. -/
theorem evaluate_void (stays : Stays market db) (void : market.status = .void) {leg : BetLeg}
    (on : leg.marketId = market.providerRef) {context : LegContext}
    (read : legContext db leg = some context) :
    LegOutcome.evaluate runtime context.input = some .void := by
  have status : context.input.marketStatus = .void := by
    unfold legContext at read
    rw [on, Table.get?_of_mem stays] at read
    cases row? : findEvent db leg.eventId with
    | none =>
        rw [row?] at read
        cases read
    | some row =>
        rw [row?] at read
        dsimp only at read
        cases snapshot? : storedSnapshot leg row with
        | some snapshot =>
            rw [snapshot?] at read
            obtain rfl := Option.some.inj read
            exact void
        | none =>
            rw [snapshot?] at read
            obtain ⟨selection, _, rfl⟩ := Option.map_eq_some_iff.mp read
            exact void
  unfold LegOutcome.evaluate
  rw [if_pos status]

/-- Each leg on a void market gets the result void. -/
theorem legResults_void (stays : Stays market db) (void : market.status = .void)
    (grades : gradeContexts runtime bet (bet.legs.map (legContext db)) = some graded) :
    List.Forall₂ (fun leg result => leg.marketId = market.providerRef → result = LegResult.void)
      bet.legs graded.legResults := by
  obtain ⟨found, each, final, evaluated⟩ := legResults_of_graded grades
  rw [List.forall₂_map_left_iff] at each
  clear grades final
  generalize bet.legs = legs at each
  generalize graded.legResults = results at evaluated
  induction each generalizing results with
  | nil =>
      cases evaluated
      exact .nil
  | cons read _ ih =>
      cases evaluated with
      | cons result later =>
          refine .cons (fun on => ?_) (ih _ later)
          rw [evaluate_void stays void on read] at result
          exact (Option.some.inj result).symm

/-- A bet with a leg on a void market is graded void, and its stake goes back. -/
theorem graded_void (stays : Stays market db) (void : market.status = .void) {leg : BetLeg}
    (own : leg ∈ bet.legs) (on : leg.marketId = market.providerRef)
    (grades : gradeContexts runtime bet (bet.legs.map (legContext db)) = some graded) :
    graded.betResult = .void ∧ graded.payoutAmount = stakeAmount bet.stake := by
  have results := legResults_void stays void grades
  have listed : LegResult.void ∈ graded.legResults := by
    obtain ⟨index, inside, rfl⟩ := List.getElem_of_mem own
    have inside' := results.length_eq ▸ inside
    have same : graded.legResults[index] = .void := results.get inside inside' on
    rw [← same]
    exact List.getElem_mem inside'
  obtain ⟨_, result, payout⟩ := Premises.gradeContexts_some grades
  have voided : graded.betResult = .void := by
    rw [result, aggregateBetResult, if_pos listed]
  refine ⟨voided, ?_⟩
  rw [payout, voided]
  rfl

end Refunds

section Runs

variable {market : Market} {db : Database} {runtime : Runtime} {isOddsApi : Bool}

/-- **A void market stays void** through any ingest runs and manual results that leave it alone,
and every bet on it that is graded from then on is void and gets its stake back. -/
theorem void_market_kept {sessions : List (Session databaseMachine)}
    (stored : market ∈ db.catalog.markets) (void : market.status = .void)
    (each : Session.Each (Operation.Spares market runtime isOddsApi) sessions db) :
    market ∈ (Session.runAll sessions db).catalog.markets ∧
      ∀ bet ∈ (Session.runAll sessions db).ledger.bets, ∀ leg ∈ bet.legs,
        leg.marketId = market.providerRef → ∀ moment graded,
          readFrom (Session.runAll sessions db) moment (gradeBet runtime bet.id) =
            some (.ok (some graded)) →
          graded.betResult = .void ∧ graded.payoutAmount = stakeAmount bet.stake ∧
            List.Forall₂ (fun leg result => leg.marketId = market.providerRef →
              result = LegResult.void) graded.bet.legs graded.legResults := by
  have stays : Stays market (Session.runAll sessions db) :=
    Session.runAll_preserves (fun _ _ stays spares => stays_of_session stays spares) stored each
  refine ⟨stays, ?_⟩
  intro bet placed leg own on moment graded read
  rw [readFrom_gradeBet _ moment runtime (Table.get?_of_mem placed)] at read
  have grades := Except.ok.inj (Option.some.inj read)
  split at grades
  · have sorted : leg ∈ sortLegs bet.legs := mem_sortLegs.mpr own
    obtain ⟨voided, refund⟩ := graded_void stays void sorted on grades
    refine ⟨voided, refund, ?_⟩
    rw [(Premises.gradeContexts_some grades).1]
    exact legResults_void stays void grades
  · cases grades

end Runs

section Sample

/-- A bet of ten on the totals going over 220.5. -/
def overBet : Bet where
  id := "bet"
  casinoGroupId := "group"
  userId := "user"
  username := "player"
  idempotencyKey := "key"
  stake := .ofUnits 1000
  currency := "EUR"
  status := .accepted
  combinedOdds := .ofUnits 1900
  potentialPayout := .ofUnits 1900
  walletReservationId := none
  rejectionReason := none
  payoutAmount := none
  settledAt := none
  settlementNote := none
  createdAt := 0
  legs := [⟨"game:book:totals:over:220.5", "game:book:totals", "game", "Over 220.5",
    .ofUnits 1900, 0, .pending, none, none, none, none, none, none, none, none, none⟩]

def withOverBet (db : Database) : Database :=
  { db with ledger := ⟨⟨[overBet], by decide⟩, .empty, by decide⟩ }

/-- The game has ended 100 to 90, and its totals were made void afterwards. -/
def voidedGame : Database :=
  withOverBet (setMarketRows finalDatabase "game:book:totals" .void .void)

/-- The feed lists another game, with totals of its own. -/
def otherFeed : ProviderSnapshot :=
  mapOddsApiToSnapshot asciiRuntime 1
    { totalsFeed (.ofDigits 2205 (-1)) [] ["totals"] with
      oddsBySport := fun _ => [⟨"other", "0", "Heat", "Bulls", [⟨"book", [⟨"totals",
        [⟨"Over", .ofDigits 19 (-1), some (.ofDigits 1985 (-1))⟩,
          ⟨"Under", .ofDigits 19 (-1), some (.ofDigits 1985 (-1))⟩]⟩]⟩]⟩] }

/-- What the bet is graded, if it is. -/
def gradeOf (db : Database) : Option (WalletSettlementOutcome × Numeral.Numeric 14 2) :=
  match readFrom db ⟨0, fun _ => 0⟩ (gradeBet asciiRuntime "bet") with
  | some (.ok (some graded)) => some (graded.betResult, graded.payoutAmount)
  | _ => none

/-- The other game is ingested, and then staff enter its result. -/
def otherRuns : List (Session databaseMachine) :=
  [(IngestRun.catalog (.ok otherFeed)).session asciiRuntime true 40,
    ⟨(Operation.finalizeEventResult "other" 101 99).program asciiRuntime true,
      List.replicate 8 (.run 0 .none)⟩]

/-- The totals of the other game are settled, those of the first one stay void. -/
theorem void_totals_refunded :
    (Session.runAll otherRuns voidedGame).catalog.markets.rows.map
        (fun market => (market.providerRef, market.status)) =
      [("game:book:totals", .void), ("other:book:totals", .settled)] ∧
    ∃ graded, readFrom (Session.runAll otherRuns voidedGame) ⟨0, fun _ => 0⟩
        (gradeBet asciiRuntime "bet") = some (.ok (some graded)) ∧
      graded.betResult = .void ∧ graded.payoutAmount = stakeAmount overBet.stake := by
  have void : ∃ market ∈ voidedGame.catalog.markets.rows, market.providerRef = "game:book:totals" ∧
      market.event = "game" ∧ market.status = .void := by decide +kernel
  obtain ⟨market, stored, ref, of, status⟩ := void
  have each : Session.Each (Operation.Spares market asciiRuntime true) otherRuns voidedGame := by
    refine ⟨⟨.ingest (.catalog (.ok otherFeed)), rfl, ?_⟩,
      ⟨.finalizeEventResult "other" 101 99, rfl, by rw [Operation.LeavesAlone, of]; decide⟩,
      trivial⟩
    intro snapshot fetched
    obtain rfl := Except.ok.inj fetched
    refine ⟨?_, fun _ _ _ purges => absurd purges.1 (by decide)⟩
    rw [Overwrites, ref, of]
    decide +kernel
  have graded : gradeOf (Session.runAll otherRuns voidedGame) ≠ none := by decide +kernel
  have placed : overBet ∈ (Session.runAll otherRuns voidedGame).ledger.bets.rows := by
    decide +kernel
  refine ⟨by decide +kernel, ?_⟩
  have refunds := (void_market_kept (Table.mem_rows.mp stored) status each).2
  unfold gradeOf at graded
  split at graded
  · next graded' read =>
      obtain ⟨voided, refund, _⟩ := refunds overBet (Table.mem_rows.mp placed) _
        List.mem_cons_self ref.symm _ graded' read
      exact ⟨graded', read, voided, refund⟩
  · exact absurd rfl graded

/-- The totals are void while the game goes on. -/
def voidedTotals : Database := withOverBet voidTotals

def relistedTotals : Database :=
  ((IngestRun.catalog (.ok openTotals)).session asciiRuntime true 40).result voidedTotals

def finalizedTotals : Database := finalizeGame.result voidedTotals

/-- A feed that lists the void market puts it on sale, and with a manual result its bet is lost. -/
theorem void_market_overwritten :
    (voidedTotals.catalog.markets.get? "game:book:totals").map Market.status = some .void ∧
    (relistedTotals.catalog.markets.get? "game:book:totals").map Market.status = some .open ∧
    (finalizedTotals.catalog.markets.get? "game:book:totals").map Market.status = some .settled ∧
      gradeOf finalizedTotals = some (.lost, ⟨0, by decide⟩) := by
  decide +kernel

end Sample

end SportsBetting.Trading
