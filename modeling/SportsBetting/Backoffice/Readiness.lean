import SportsBetting.Backoffice.Mutations
import SportsBetting.Settlement.Frozen
import Mathlib.Data.List.MinMax

/-!
# Readiness of an event for settlement

Before a settlement run staff see whether an event is ready. This gate looks at one
market of the open bets on the event, while grading looks at the market of every leg.
-/

namespace SportsBetting

open Async Ledger SettlementService

def EventStatus.text : EventStatus → String
  | .scheduled => "SCHEDULED"
  | .live => "LIVE"
  | .suspended => "SUSPENDED"
  | .ended => "ENDED"
  | .cancelled => "CANCELLED"

def MarketStatus.text : MarketStatus → String
  | .open => "OPEN"
  | .suspended => "SUSPENDED"
  | .settled => "SETTLED"
  | .void => "VOID"

namespace StaffSettlementService

structure UnsettledEventRow where
  eventId : String
  providerRef : String
  eventStatus : EventStatus
  homeScore : Option ℤ
  awayScore : Option ℤ
  matchup : String
  marketStatus : Option MarketStatus
  openBetCount : ℕ
  blockers : List String
  readyToSettle : Bool

/-- An event with the teams of its fixture. -/
structure UnsettledEvent where
  event : Event
  homeTeam : Team
  awayTeam : Team

def findUnsettledEvent (eventId : String) (db : Database) : Option UnsettledEvent := do
  let event ← db.catalog.events.get? eventId
  let fixture ← db.catalog.fixtures.get? event.fixture
  let homeTeam ← db.catalog.teams.get? fixture.homeTeam
  let awayTeam ← db.catalog.teams.get? fixture.awayTeam
  return ⟨event, homeTeam, awayTeam⟩

/-- The markets of the legs on the event, over the accepted bets of the tenant. -/
def openMarketIds (casinoGroupId eventId : String) (db : Database) : List String :=
  let bets := db.ledger.bets.rows.filter fun bet =>
    bet.casinoGroupId = casinoGroupId && bet.status = .accepted
  let legs := bets.flatMap fun bet => bet.legs.filter fun leg => leg.eventId = eventId
  (legs.map BetLeg.marketId).dedup

def marketsIn (marketIds : List String) (db : Database) : List Market :=
  db.catalog.markets.rows.filter fun market => market.providerRef ∈ marketIds

/-- The query names no order, so the database returns any one of the markets. -/
def findFirstMarket (marketIds : List String) (db : Database) (moment : Moment) : Option Market :=
  (marketsIn marketIds db).argmin fun market => moment.rank market.providerRef

def isFinalMarket (market : Market) : Bool := market.status = .settled || market.status = .void

def hasScores (event : Event) : Bool := event.homeScore.isSome && event.awayScore.isSome

def describeBlockers (event : Event) (market : Option Market) : List String :=
  (if event.status ≠ .ended then ["Event is " ++ event.status.text ++ " (need ENDED)"] else []) ++
  (match market with
    | none => ["No market found for open bets"]
    | some market =>
        if !isFinalMarket market then
          ["Market is " ++ market.status.text ++ " (need SETTLED or VOID)"]
        else []) ++
  if !hasScores event then ["Final scores missing"] else []

def unsettledEventRow (eventId : String) (openBetCount : ℕ) (row : UnsettledEvent)
    (market : Option Market) : UnsettledEventRow :=
  let blockers := describeBlockers row.event market
  { eventId
    providerRef := row.event.providerRef
    eventStatus := row.event.status
    homeScore := row.event.homeScore
    awayScore := row.event.awayScore
    matchup := row.homeTeam.name ++ " vs " ++ row.awayTeam.name
    marketStatus := market.map Market.status
    openBetCount
    blockers
    readyToSettle := blockers.length = 0 }

def loadUnsettledEventRow (casinoGroupId eventId : String) : Betting (Option UnsettledEventRow) := do
  let openBetCount ← view (Portal.openBetCount casinoGroupId eventId)
  if openBetCount = 0 then return none
  else do
    let event ← view (findUnsettledEvent eventId)
    match event with
    | none => return none
    | some event => do
        let marketIds ← view (openMarketIds casinoGroupId eventId)
        let market ← Program.call (.read (findFirstMarket marketIds))
        return some (unsettledEventRow eventId openBetCount event market)

section Agreement

variable {db : Database} {casinoGroupId eventId : String}

/-- Grading can make a result of the leg: its event has ended, its market is settled or
void, and unless it is void both scores are there. -/
def Passes (db : Database) (leg : BetLeg) : Prop :=
  ∃ event ∈ db.catalog.events, event.providerRef = leg.eventId ∧ event.status = .ended ∧
    ∃ market ∈ db.catalog.markets, market.providerRef = leg.marketId ∧
      isFinalMarket market = true ∧ (market.status ≠ .void → hasScores event = true)

/-- Every leg on the event, of every accepted bet of the tenant, can be graded. -/
def AllPass (db : Database) (casinoGroupId eventId : String) : Prop :=
  ∀ bet ∈ db.ledger.bets, bet.casinoGroupId = casinoGroupId → bet.status = .accepted →
    ∀ leg ∈ bet.legs, leg.eventId = eventId → Passes db leg

/-- No bet has a leg without its event and market rows. -/
def RowsPresent (db : Database) : Prop :=
  ∀ bet ∈ db.ledger.bets, ∀ leg ∈ bet.legs,
    (findEvent db leg.eventId).isSome ∧ db.catalog.markets.Has leg.marketId

section Deciding

instance (db : Database) (leg : BetLeg) : Decidable (Passes db leg) :=
  inferInstanceAs (Decidable (∃ event ∈ db.catalog.events.rows, event.providerRef = leg.eventId ∧
    event.status = .ended ∧ ∃ market ∈ db.catalog.markets.rows,
      market.providerRef = leg.marketId ∧ isFinalMarket market = true ∧
      (market.status ≠ .void → hasScores event = true)))

instance (db : Database) (casinoGroupId eventId : String) :
    Decidable (AllPass db casinoGroupId eventId) :=
  inferInstanceAs (Decidable (∀ bet ∈ db.ledger.bets.rows, bet.casinoGroupId = casinoGroupId →
    bet.status = .accepted → ∀ leg ∈ bet.legs, leg.eventId = eventId → Passes db leg))

instance (db : Database) : Decidable (RowsPresent db) :=
  inferInstanceAs (Decidable (∀ bet ∈ db.ledger.bets.rows, ∀ leg ∈ bet.legs,
    (findEvent db leg.eventId).isSome ∧ ∃ market ∈ db.catalog.markets.rows,
      market.providerRef = leg.marketId))

end Deciding

/-- The conditions are those on the context that grading loads for the leg. -/
theorem passes_iff_context {leg : BetLeg} {context : LegContext}
    (loaded : legContext db leg = some context) :
    Passes db leg ↔ isFinal context = true ∧ (context.input.marketStatus ≠ .void →
      context.input.homeScore.isSome ∧ context.input.awayScore.isSome) := by
  obtain ⟨row, market, event?, market?, status, final, home, away⟩ :
      ∃ row market, findEvent db leg.eventId = some row ∧
        db.catalog.markets.get? leg.marketId = some market ∧
        context.eventStatus = row.event.status ∧ context.input.marketStatus = market.status ∧
        context.input.homeScore = row.event.homeScore ∧
        context.input.awayScore = row.event.awayScore := by
    unfold legContext at loaded
    split at loaded
    · next row market event? market? =>
        refine ⟨row, market, event?, market?, ?_⟩
        split at loaded
        · obtain rfl := Option.some.inj loaded
          exact ⟨rfl, rfl, rfl, rfl⟩
        · obtain ⟨_, _, rfl⟩ := Option.map_eq_some_iff.mp loaded
          exact ⟨rfl, rfl, rfl, rfl⟩
    · cases loaded
  obtain ⟨stored, named⟩ : row.event ∈ db.catalog.events ∧ row.event.providerRef = leg.eventId := by
    unfold findEvent at event?
    simp only [Option.bind_eq_bind, Option.bind_eq_some_iff] at event?
    obtain ⟨event, found, _, _, _, _, _, _, _, _, _, _, same⟩ := event?
    obtain rfl := Option.some.inj same
    exact Table.get?_eq_some_iff.mp found
  obtain ⟨present, on⟩ := Table.get?_eq_some_iff.mp market?
  simp only [isFinal, status, final, home, away, Bool.and_eq_true, decide_eq_true_eq]
  constructor
  · rintro ⟨event, first, ref, ended, other, second, key, settled, scored⟩
    obtain rfl := Table.eq_of_key first stored (ref.trans named.symm)
    obtain rfl := Table.eq_of_key second present (key.trans on.symm)
    exact ⟨⟨ended, settled⟩, by simpa [hasScores] using scored⟩
  · rintro ⟨⟨ended, settled⟩, scored⟩
    exact ⟨row.event, stored, named, ended, market, present, on, settled,
      by simpa [hasScores] using scored⟩

theorem mem_openMarketIds {marketId : String} :
    marketId ∈ openMarketIds casinoGroupId eventId db ↔
      ∃ bet ∈ db.ledger.bets, bet.casinoGroupId = casinoGroupId ∧ bet.status = .accepted ∧
        ∃ leg ∈ bet.legs, leg.eventId = eventId ∧ leg.marketId = marketId := by
  simp only [openMarketIds, List.mem_dedup, List.mem_map, List.mem_flatMap, List.mem_filter,
    Bool.and_eq_true, decide_eq_true_eq, Table.mem_rows]
  constructor
  · rintro ⟨leg, ⟨bet, ⟨stored, tenant, accepted⟩, listed, on⟩, same⟩
    exact ⟨bet, stored, tenant, accepted, leg, listed, on, same⟩
  · rintro ⟨bet, stored, tenant, accepted, leg, listed, on, same⟩
    exact ⟨leg, ⟨bet, ⟨stored, tenant, accepted⟩, listed, on⟩, same⟩

theorem mem_marketsIn {marketIds : List String} {market : Market} :
    market ∈ marketsIn marketIds db ↔
      market ∈ db.catalog.markets ∧ market.providerRef ∈ marketIds := by
  simp [marketsIn, Table.mem_rows]

/-- Whichever of the markets it is, some order puts it first. -/
theorem exists_findFirstMarket {marketIds : List String} {market : Market}
    (listed : market ∈ marketsIn marketIds db) :
    ∃ moment, findFirstMarket marketIds db moment = some market := by
  let moment : Moment := ⟨0, fun ref => if ref = market.providerRef then 0 else 1⟩
  refine ⟨moment, ?_⟩
  cases first : findFirstMarket marketIds db moment with
  | none =>
      rw [findFirstMarket, List.argmin_eq_none] at first
      rw [first] at listed
      cases listed
  | some other =>
      have least := List.not_lt_of_mem_argmin listed first
      have present := List.argmin_mem (Option.mem_def.mpr first)
      have same : other.providerRef = market.providerRef := by
        by_contra differs
        exact least (by simp [moment, differs])
      rw [Table.eq_of_key (mem_marketsIn.mp present).1 (mem_marketsIn.mp listed).1 same]

theorem ready_iff (count : ℕ) (row : UnsettledEvent) (market : Market) :
    (unsettledEventRow eventId count row (some market)).readyToSettle = true ↔
      row.event.status = .ended ∧ isFinalMarket market = true ∧ hasScores row.event = true := by
  by_cases ended : row.event.status = .ended <;> cases final : isFinalMarket market <;>
    cases scored : hasScores row.event <;>
      simp [unsettledEventRow, describeBlockers, ended, final, scored]

theorem allPass_iff {event : Event} (stored : event ∈ db.catalog.events)
    (named : event.providerRef = eventId)
    (present : ∀ marketId ∈ openMarketIds casinoGroupId eventId db,
      db.catalog.markets.Has marketId)
    (some_market : openMarketIds casinoGroupId eventId db ≠ []) :
    AllPass db casinoGroupId eventId ↔ event.status = .ended ∧
      ∀ market ∈ marketsIn (openMarketIds casinoGroupId eventId db) db,
        isFinalMarket market = true ∧ (market.status ≠ .void → hasScores event = true) := by
  constructor
  · intro all
    have each : ∀ market ∈ marketsIn (openMarketIds casinoGroupId eventId db) db,
        event.status = .ended ∧
          isFinalMarket market = true ∧ (market.status ≠ .void → hasScores event = true) := by
      intro market listed
      obtain ⟨there, open_⟩ := mem_marketsIn.mp listed
      obtain ⟨bet, placed, tenant, accepted, leg, own, on, of⟩ := mem_openMarketIds.mp open_
      obtain ⟨other, first, ref, ended, found_, second, key, final, scored⟩ :=
        all bet placed tenant accepted leg own on
      obtain rfl := Table.eq_of_key first stored (ref.trans (on.trans named.symm))
      obtain rfl := Table.eq_of_key second there (key.trans of)
      exact ⟨ended, final, scored⟩
    obtain ⟨marketId, listed⟩ := List.exists_mem_of_ne_nil _ some_market
    obtain ⟨market, there, rfl⟩ := present marketId listed
    exact ⟨(each market (mem_marketsIn.mpr ⟨there, listed⟩)).1,
      fun market member => (each market member).2⟩
  · rintro ⟨ended, each⟩ bet placed tenant accepted leg own on
    have open_ : leg.marketId ∈ openMarketIds casinoGroupId eventId db :=
      mem_openMarketIds.mpr ⟨bet, placed, tenant, accepted, leg, own, on, rfl⟩
    obtain ⟨market, there, same⟩ := present _ open_
    obtain ⟨final, scored⟩ := each market (mem_marketsIn.mpr ⟨there, by rwa [same]⟩)
    exact ⟨event, stored, named.trans on.symm, ended, market, there, same, final, scored⟩

/-- What the gate needs to agree with grading. Once the event has ended with its scores, its
markets are all final or none of them is; ended without scores, some market is not void. -/
def GateAgrees (db : Database) (casinoGroupId eventId : String) : Prop :=
  let markets := marketsIn (openMarketIds casinoGroupId eventId db) db
  ∀ event ∈ db.catalog.events, event.providerRef = eventId → event.status = .ended →
    if hasScores event then
      (∀ market ∈ markets, isFinalMarket market = true) ∨
        ∀ market ∈ markets, isFinalMarket market = false
    else ∃ market ∈ markets, market.status ≠ .void

instance (db : Database) (casinoGroupId eventId : String) :
    Decidable (GateAgrees db casinoGroupId eventId) :=
  inferInstanceAs (Decidable (∀ event ∈ db.catalog.events.rows, event.providerRef = eventId →
    event.status = .ended →
    if hasScores event then
      (∀ market ∈ marketsIn (openMarketIds casinoGroupId eventId db) db,
        isFinalMarket market = true) ∨
      ∀ market ∈ marketsIn (openMarketIds casinoGroupId eventId db) db,
        isFinalMarket market = false
    else ∃ market ∈ marketsIn (openMarketIds casinoGroupId eventId db) db, market.status ≠ .void))

theorem isFinalMarket_of_void {market : Market} (void : market.status = .void) :
    isFinalMarket market = true := by
  simp [isFinalMarket, void]

/-- For one event and its markets: each of them, taken for all, tells whether all pass. -/
theorem each_agrees_iff {event : Event} {markets : List Market} (some_market : markets ≠ []) :
    (∀ market ∈ markets,
      (event.status = .ended ∧ isFinalMarket market = true ∧ hasScores event = true ↔
        event.status = .ended ∧ ∀ market ∈ markets,
          isFinalMarket market = true ∧ (market.status ≠ .void → hasScores event = true))) ↔
    (event.status = .ended →
      if hasScores event then
        (∀ market ∈ markets, isFinalMarket market = true) ∨
          ∀ market ∈ markets, isFinalMarket market = false
      else ∃ market ∈ markets, market.status ≠ .void) := by
  obtain ⟨first, listed⟩ := List.exists_mem_of_ne_nil _ some_market
  by_cases ended : event.status = .ended
  · cases scored : hasScores event with
    | true =>
        simp only [ended, true_and, and_true, implies_true, forall_const, if_true]
        constructor
        · intro agree
          by_cases final : isFinalMarket first = true
          · exact .inl ((agree first listed).mp final)
          · refine .inr fun market member => ?_
            by_contra settled
            rw [Bool.not_eq_false] at settled
            exact final ((agree market member).mp settled first listed)
        · rintro (all | none_) market member
          · exact ⟨fun _ => all, fun _ => all market member⟩
          · constructor
            · intro final
              rw [none_ market member] at final
              cases final
            · intro all
              exact all market member
    | false =>
        simp only [ended, true_and, and_false, Bool.false_eq_true, imp_false, not_not, false_iff,
          forall_const, if_false]
        constructor
        · intro agree
          by_contra voided
          push Not at voided
          exact agree first listed fun market member =>
            ⟨isFinalMarket_of_void (voided market member), voided market member⟩
        · rintro ⟨market, member, solid⟩ _ _ all
          exact solid (all market member).2
  · simp [ended]

theorem openMarketIds_ne_nil (counted : Portal.openBetCount casinoGroupId eventId db ≠ 0) :
    openMarketIds casinoGroupId eventId db ≠ [] := by
  obtain ⟨bet, listed⟩ := List.exists_mem_of_length_pos (Nat.pos_of_ne_zero counted)
  simp only [List.mem_filter, Bool.and_eq_true, decide_eq_true_eq, List.any_eq_true] at listed
  obtain ⟨stored, ⟨tenant, accepted⟩, leg, own, on⟩ := listed
  exact List.ne_nil_of_mem (mem_openMarketIds.mpr ⟨bet, stored, tenant, accepted, leg, own, on, rfl⟩)

/-- The row that the gate shows, with whichever market comes first. -/
theorem readFrom_loadUnsettledEventRow (moment : Moment) {row : UnsettledEvent}
    (counted : Portal.openBetCount casinoGroupId eventId db ≠ 0)
    (found_ : findUnsettledEvent eventId db = some row) :
    readFrom db moment (loadUnsettledEventRow casinoGroupId eventId) =
      some (.ok (some (unsettledEventRow eventId (Portal.openBetCount casinoGroupId eventId db) row
        (findFirstMarket (openMarketIds casinoGroupId eventId db) db moment)))) := by
  unfold loadUnsettledEventRow
  rw [readFrom_bind db moment _ rfl, if_neg counted, readFrom_bind db moment _ rfl]
  simp only [found_]
  rfl

theorem findUnsettledEvent_of_findEvent (complete : (findEvent db eventId).isSome) :
    ∃ row, findUnsettledEvent eventId db = some row ∧ row.event ∈ db.catalog.events ∧
      row.event.providerRef = eventId := by
  obtain ⟨joined, same⟩ := Option.isSome_iff_exists.mp complete
  unfold findEvent at same
  simp only [Option.bind_eq_bind, Option.bind_eq_some_iff] at same
  obtain ⟨event, event?, fixture, fixture?, homeTeam, home?, awayTeam, away?, _⟩ := same
  obtain ⟨stored, named⟩ := Table.get?_eq_some_iff.mp event?
  refine ⟨⟨event, homeTeam, awayTeam⟩, ?_, stored, named⟩
  simp [findUnsettledEvent, event?, fixture?, home?, away?]

/-- **The gate agrees with grading**, whichever market the database returns first, exactly
where all open markets of an ended event stand alike. -/
theorem readyToSettle_iff_allPass (present : RowsPresent db)
    (counted : Portal.openBetCount casinoGroupId eventId db ≠ 0) :
    (∀ moment, ∃ row, readFrom db moment (loadUnsettledEventRow casinoGroupId eventId) =
        some (.ok (some row)) ∧
      (row.readyToSettle = true ↔ AllPass db casinoGroupId eventId)) ↔
      GateAgrees db casinoGroupId eventId := by
  have some_id := openMarketIds_ne_nil counted
  have markets : ∀ marketId ∈ openMarketIds casinoGroupId eventId db,
      db.catalog.markets.Has marketId := by
    intro marketId listed
    obtain ⟨bet, stored, _, _, leg, own, _, rfl⟩ := mem_openMarketIds.mp listed
    exact (present bet stored leg own).2
  obtain ⟨marketId, listed⟩ := List.exists_mem_of_ne_nil _ some_id
  have some_market : marketsIn (openMarketIds casinoGroupId eventId db) db ≠ [] := by
    obtain ⟨market, there, rfl⟩ := markets marketId listed
    exact List.ne_nil_of_mem (mem_marketsIn.mpr ⟨there, listed⟩)
  obtain ⟨bet, placed, _, _, leg, own, rfl, _⟩ := mem_openMarketIds.mp listed
  obtain ⟨row, row?, stored, named⟩ :=
    findUnsettledEvent_of_findEvent (present bet placed leg own).1
  -- The orders of the database are the choices of one market.
  have shown : (∀ moment, ∃ shown,
        readFrom db moment (loadUnsettledEventRow casinoGroupId leg.eventId) =
          some (.ok (some shown)) ∧
        (shown.readyToSettle = true ↔ AllPass db casinoGroupId leg.eventId)) ↔
      ∀ market ∈ marketsIn (openMarketIds casinoGroupId leg.eventId db) db,
        (row.event.status = .ended ∧ isFinalMarket market = true ∧ hasScores row.event = true ↔
          AllPass db casinoGroupId leg.eventId) := by
    constructor
    · intro agree market member
      obtain ⟨moment, first⟩ := exists_findFirstMarket member
      obtain ⟨shown, loaded, same⟩ := agree moment
      rw [readFrom_loadUnsettledEventRow moment counted row?, first] at loaded
      obtain rfl := Option.some.inj (Except.ok.inj (Option.some.inj loaded))
      rwa [ready_iff] at same
    · intro agree moment
      refine ⟨_, readFrom_loadUnsettledEventRow moment counted row?, ?_⟩
      cases first : findFirstMarket (openMarketIds casinoGroupId leg.eventId db) db moment with
      | none => exact absurd (List.argmin_eq_none.mp first) some_market
      | some market =>
          rw [ready_iff]
          exact agree market (List.argmin_mem (Option.mem_def.mpr first))
  rw [shown, allPass_iff stored named markets some_id, each_agrees_iff some_market, GateAgrees]
  constructor
  · intro agree event other same ended
    obtain rfl := Table.eq_of_key other stored (same.trans named.symm)
    exact agree ended
  · intro agree
    exact agree row.event stored named

/-- An accepted bet on one market of the match. -/
def betOn (id marketId : String) : Bet where
  id := id
  casinoGroupId := "group"
  userId := "user"
  username := "player"
  idempotencyKey := id
  stake := .ofUnits 1000
  currency := "EUR"
  status := .accepted
  combinedOdds := .ofUnits 2000
  potentialPayout := .ofUnits 2000
  walletReservationId := none
  rejectionReason := none
  payoutAmount := none
  settledAt := none
  settlementNote := none
  createdAt := 0
  legs := [⟨"selection", marketId, "match", "Ants", .ofUnits 2000, 0, .pending, none, none,
    none, none, none, none, none, none, none⟩]

/-- The match has ended; bets are open on two of its markets. -/
def twoMarkets (score : Option ℤ) (winner total : MarketStatus) : Database where
  catalog := { Sample.catalog .ended winner with
    events := ⟨[⟨"match", "match", .ended, score, score, none, none⟩], by simp⟩
    markets := ⟨[⟨"winner", "match", .matchResult, winner, none⟩,
      ⟨"total", "match", .total, total, some (.ofUnits 250)⟩], by simp⟩ }
  ledger := ⟨⟨[betOn "first" "winner", betOn "second" "total"], by decide⟩, .empty, by decide⟩
  audit := []

/-- The database returns the market on the winner first. -/
def winnerFirst : Moment := ⟨0, fun ref => if ref = "winner" then 0 else 1⟩

theorem gate_agrees_all_settled :
    GateAgrees (twoMarkets (some 1) .settled .void) "group" "match" ∧
    ∀ moment, ∃ row, readFrom (twoMarkets (some 1) .settled .void) moment
        (loadUnsettledEventRow "group" "match") = some (.ok (some row)) ∧
      (row.readyToSettle = true ↔
        AllPass (twoMarkets (some 1) .settled .void) "group" "match") := by
  have agrees : GateAgrees (twoMarkets (some 1) .settled .void) "group" "match" := by decide
  exact ⟨agrees, (readyToSettle_iff_allPass (by decide) (by decide)).mpr agrees⟩

/-- With one market settled and one still open the event is shown as ready; with void markets
and no scores it is not, though every leg can be graded. -/
theorem gate_disagrees :
    (RowsPresent (twoMarkets (some 1) .settled .open) ∧
      (∃ row, readFrom (twoMarkets (some 1) .settled .open) winnerFirst
        (loadUnsettledEventRow "group" "match") = some (.ok (some row)) ∧
          row.readyToSettle = true) ∧
      ¬ AllPass (twoMarkets (some 1) .settled .open) "group" "match") ∧
    RowsPresent (twoMarkets none .void .void) ∧
      (∃ row, readFrom (twoMarkets none .void .void) winnerFirst
        (loadUnsettledEventRow "group" "match") = some (.ok (some row)) ∧
          row.readyToSettle = false) ∧
      AllPass (twoMarkets none .void .void) "group" "match" :=
  ⟨⟨by decide, ⟨_, rfl, by decide⟩, by decide⟩, by decide, ⟨_, rfl, by decide⟩, by decide⟩

end Agreement

end StaffSettlementService

end SportsBetting
